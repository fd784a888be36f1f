import Mathlib.Data.List.Basic
import ScriptLexer.Command.Tree

/-! Paths and where they lead. A path is printed with the characters of the text that gives
it. In a tree it is followed one component after another, and it cannot be read where it is
no path, where a step on its way fails, or where it leads to a directory. -/
namespace ScriptLexer.Command

open Text

/-! ### Printed paths -/

theorem Path.mem_split {c : Char} {part text : List Char} (within : part ∈ split text)
    (member : c ∈ part) : c ∈ text := by
  induction text generalizing part with
  | nil => simp_all [split]
  | cons d rest ih =>
    unfold split at within
    split at within
    · rcases List.mem_cons.mp within with rfl | later
      · cases member
      · exact List.mem_cons_of_mem _ (ih later member)
    · split at within
      · rcases List.mem_singleton.mp within with rfl
        simp_all
      · rename_i first others shape
        rw [shape] at ih
        rcases List.mem_cons.mp within with rfl | later
        · rcases List.mem_cons.mp member with rfl | inside
          · exact List.mem_cons_self
          · exact List.mem_cons_of_mem _ (ih List.mem_cons_self inside)
        · exact List.mem_cons_of_mem _ (ih (List.mem_cons_of_mem _ later) member)

/-- Between joined texts is nothing but what joins them. -/
theorem mem_intercalate {c : Char} {parts : List (List Char)}
    (member : c ∈ ['/'].intercalate parts) : c = '/' ∨ ∃ part ∈ parts, c ∈ part := by
  induction parts with
  | nil => cases member
  | cons part parts ih =>
    cases parts with
    | nil => exact .inr ⟨part, List.mem_cons_self, by simpa using member⟩
    | cons next parts =>
      rw [List.intercalate_cons_cons, List.append_assoc, List.mem_append, List.mem_append] at member
      rcases member with here | slash | later
      · exact .inr ⟨part, List.mem_cons_self, here⟩
      · exact .inl (List.mem_singleton.mp slash)
      · rcases ih later with slash | ⟨other, within, inside⟩
        · exact .inl slash
        · exact .inr ⟨other, List.mem_cons_of_mem _ within, inside⟩

/-- A path is printed with the characters of the text that gives it, besides slashes and
points. -/
theorem Path.mem_print {c : Char} {text : List Char} (member : c ∈ (ofText text).print) :
    c = '.' ∨ c = '/' ∨ c ∈ text := by
  unfold print at member
  split at member
  · exact .inl (List.mem_singleton.mp member)
  · rcases List.mem_append.mp member with slash | inside
    · exact .inr (.inl (List.eq_of_mem_replicate slash))
    · rcases mem_intercalate inside with slash | ⟨part, within, inside⟩
      · exact .inr (.inl slash)
      · exact .inr (.inr (mem_split (List.mem_of_mem_filter within) inside))

/-! ### Walks in a tree -/

namespace Tree

variable {tree : Tree} {node : Node} {name : List Char} {components : List (List Char)}
  {path : Path} {fault : ReadFault} {trace : List Char}

/-- Nothing stands under this name, whatever the tree holds: it is looked for below a file, or
it is longer than the name of an entry. -/
def Impassable (node : Node) (name : List Char) : Prop :=
  (∃ content, node = .file content) ∨
    name ≠ "..".toList ∧ longestName < (Utf8.encode name).length

theorem eq_missing_of_entry (refused : tree.entry components = .error fault) :
    fault = .missing := by
  unfold entry at refused
  repeat' split at refused
  all_goals cases refused
  rfl

/-- All that can keep a step from being taken. -/
theorem follow_inversion (refused : tree.follow node name = .error fault) :
    Impassable node name ∧ (fault = .notDirectory ∨ fault = .nameTooLong) ∨
      ¬ Impassable node name ∧ fault = .missing := by
  by_cases below : ∃ content, node = .file content
  · obtain ⟨content, rfl⟩ := below
    cases refused
    exact .inl ⟨.inl ⟨content, rfl⟩, .inl rfl⟩
  by_cases parent : name = "..".toList
  · cases node with
    | file content => exact absurd ⟨content, rfl⟩ below
    | directory | outside =>
      rw [follow, if_pos parent] at refused
      cases refused
  by_cases wide : longestName < (Utf8.encode name).length
  · left
    refine ⟨.inr ⟨parent, wide⟩, .inr ?_⟩
    cases node with
    | file content => exact absurd ⟨content, rfl⟩ below
    | directory | outside =>
      rw [follow, if_neg parent, if_pos wide] at refused
      cases refused
      rfl
  · right
    refine ⟨not_or.mpr ⟨below, fun long => wide long.2⟩, ?_⟩
    cases node with
    | file content => exact absurd ⟨content, rfl⟩ below
    | directory =>
      rw [follow, if_neg parent, if_neg wide] at refused
      exact eq_missing_of_entry refused
    | outside =>
      rw [follow, if_neg parent, if_neg wide] at refused
      cases refused
      rfl

theorem Impassable.refused (impassable : Impassable node name) (tree : Tree) :
    ∃ fault, tree.follow node name = .error fault := by
  rcases impassable with ⟨content, rfl⟩ | ⟨other, wide⟩
  · exact ⟨_, rfl⟩
  · cases node with
    | file content => exact ⟨_, rfl⟩
    | directory | outside => exact ⟨_, by rw [follow, if_neg other, if_pos wide]⟩

/-- A walk fails as its first step does that fails. -/
theorem walk_eq_error_iff :
    components.foldlM tree.follow node = .error fault ↔
      ∃ front name back reached, components = front ++ name :: back ∧
        front.foldlM tree.follow node = .ok reached ∧ tree.follow reached name = .error fault := by
  constructor
  · intro refused
    -- Either the first step fails, or the walk goes on from where the step leads.
    induction components generalizing node with
    | nil => cases refused
    | cons name components ih =>
      rw [List.foldlM_cons] at refused
      cases step : tree.follow node name with
      | error other =>
        rw [step] at refused
        cases refused
        exact ⟨[], name, components, node, rfl, rfl, step⟩
      | ok next =>
        rw [step] at refused
        obtain ⟨front, last, back, reached, rfl, walked, stopped⟩ := ih refused
        refine ⟨name :: front, last, back, reached, rfl, ?_, stopped⟩
        rw [List.foldlM_cons, step]
        exact walked
  · rintro ⟨front, name, back, reached, rfl, walked, stopped⟩
    rw [List.foldlM_append, walked]
    change List.foldlM tree.follow reached (name :: back) = _
    rw [List.foldlM_cons, stopped]
    rfl

/-! ### Files in a tree -/

/-- Where the components of a path begin. -/
def origin (path : Path) : Node := if path.slashes = 0 then .directory [] else .outside

/-- What is read at the end of a walk. -/
def Node.content : Node → Except ReadFault (List UInt8)
  | .file content => .ok content
  | .directory _ | .outside => .error .isDirectory

theorem read_of_nul (held : '\x00' ∈ path.print) :
    tree.read trace path = .error (.nulInPath trace) := by
  rw [read, if_pos (List.contains_iff_mem.mpr held)]

theorem read_of_long (free : '\x00' ∉ path.print)
    (long : pathBound ≤ (Utf8.encode path.print).length) :
    tree.read trace path = .error .nameTooLong := by
  rw [read, if_neg (mt List.contains_iff_mem.mp free), if_pos long]

/-- Where nothing is wrong with a path itself, it is read at the end of its walk. -/
theorem read_walked (free : '\x00' ∉ path.print)
    (short : ¬ pathBound ≤ (Utf8.encode path.print).length) :
    tree.read trace path = path.components.foldlM tree.follow (origin path) >>= Node.content := by
  have begin : (if path.slashes = 0 then Node.directory [] else .outside) = origin path := rfl
  rw [read, if_neg (mt List.contains_iff_mem.mp free), if_neg short, begin]
  rfl

theorem read_eq_nul_iff :
    (∃ text, tree.read trace path = .error (.nulInPath text)) ↔ '\x00' ∈ path.print := by
  refine ⟨fun ⟨text, refused⟩ => ?_, fun held => ⟨trace, read_of_nul held⟩⟩
  by_contra free
  by_cases long : pathBound ≤ (Utf8.encode path.print).length
  · rw [read_of_long free long] at refused
    cases refused
  rw [read_walked free long] at refused
  cases walked : path.components.foldlM tree.follow (origin path) with
  | error fault =>
    rw [walked] at refused
    cases refused
    obtain ⟨_, name, _, reached, _, _, stopped⟩ := walk_eq_error_iff.mp walked
    rcases follow_inversion stopped with ⟨_, same | same⟩ | ⟨_, same⟩ <;> cases same
  | ok node =>
    rw [walked] at refused
    cases node <;> cases refused

end Tree

end ScriptLexer.Command
