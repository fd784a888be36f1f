import Mathlib.Data.List.Induction
import ScriptLexer.Text.Lines

/-! Lines of a text. A text in which all lines end with a line feed is read back whatever
line ends it is written with, and cutting it into lines takes off one line after another. -/
namespace ScriptLexer.Text

variable {c : Char} {text first : List Char}

/-! ### Texts on lines -/

/-- Texts on a line each. -/
def onLines (texts : List (List Char)) : List Char := texts.flatMap (· ++ ['\n'])

theorem joinLines_lineEnd {texts : List (List Char)} (nonempty : texts ≠ []) :
    joinLines texts ++ ['\n'] = onLines texts := by
  induction texts with
  | nil => contradiction
  | cons text texts ih =>
    cases texts with
    | nil => simp [joinLines, onLines]
    | cons next texts =>
      have others := ih (List.cons_ne_nil _ _)
      rw [joinLines, List.intercalate_cons_cons, List.append_assoc]
      exact (congrArg (text ++ ['\n'] ++ ·) others).trans (by simp [onLines])

/-- In front of a last line, the others end with a line feed each. -/
theorem joinLines_concat (texts : List (List Char)) (last : List Char) :
    joinLines (texts ++ [last]) = onLines texts ++ last := by
  have ended : joinLines (texts ++ [last]) ++ ['\n'] = onLines texts ++ last ++ ['\n'] := by
    rw [joinLines_lineEnd (by simp), onLines, List.flatMap_append, List.flatMap_singleton,
      List.append_assoc, onLines]
  exact List.append_cancel_right ended

theorem onLines_eq_nil_iff {texts : List (List Char)} : onLines texts = [] ↔ texts = [] := by
  cases texts <;> simp [onLines]

/-! ### Line ends -/

/-- The three ways to end a line. -/
inductive LineEnd
  | lineFeed
  | carriageReturn
  /-- A carriage return and a line feed. -/
  | both

namespace LineEnd

def chars : LineEnd → List Char
  | lineFeed => ['\n']
  | carriageReturn => ['\r']
  | both => ['\r', '\n']

/-- The text with each line feed written as this line end. -/
def write (lineEnd : LineEnd) (text : List Char) : List Char :=
  text.flatMap fun c => if c = '\n' then lineEnd.chars else [c]

end LineEnd

theorem foldLineEnds_cons (plain : c ≠ '\r') (text : List Char) :
    foldLineEnds (c :: text) = c :: foldLineEnds text := by
  rw [foldLineEnds]
  · exact fun _ here => absurd here plain
  · exact plain

theorem foldLineEnds_of_not_mem (plain : '\r' ∉ text) : foldLineEnds text = text := by
  induction text with
  | nil => rfl
  | cons c text ih =>
    simp only [List.mem_cons, not_or] at plain
    rw [foldLineEnds_cons (Ne.symm plain.1), ih plain.2]

/-- Each line end is folded to one line feed. Behind a carriage return, no line feed may
follow that could be taken for a part of it. -/
theorem LineEnd.foldLineEnds_append (lineEnd : LineEnd)
    (apart : lineEnd = .carriageReturn → text.head? ≠ some '\n') :
    foldLineEnds (lineEnd.chars ++ text) = '\n' :: foldLineEnds text := by
  cases lineEnd with
  | lineFeed => exact foldLineEnds_cons (by decide) text
  | both => rfl
  | carriageReturn =>
    cases text with
    | nil => rfl
    | cons c text =>
      have other : c ≠ '\n' := fun same => apart rfl (congrArg some same)
      simp [chars, foldLineEnds, other]

/-- Written with carriage returns alone, a text has no line feed. -/
theorem LineEnd.no_lineFeed (text : List Char) : '\n' ∉ carriageReturn.write text := by
  intro member
  obtain ⟨c, _, here⟩ := List.mem_flatMap.mp member
  split at here
  · exact absurd here (by decide)
  · rename_i other
    exact other (List.mem_singleton.mp here).symm

/-- A text without carriage returns is read back whatever its line ends are written as. -/
theorem LineEnd.foldLineEnds_write (lineEnd : LineEnd) (plain : '\r' ∉ text) :
    foldLineEnds (lineEnd.write text) = text := by
  induction text with
  | nil => rfl
  | cons c text ih =>
    simp only [List.mem_cons, not_or] at plain
    have rest := ih plain.2
    have split : lineEnd.write (c :: text) =
        (if c = '\n' then lineEnd.chars else [c]) ++ lineEnd.write text := List.flatMap_cons
    rw [split]
    by_cases here : c = '\n'
    · have apart : lineEnd = .carriageReturn → (lineEnd.write text).head? ≠ some '\n' := by
        rintro rfl first
        exact no_lineFeed text (List.mem_of_mem_head? first)
      rw [if_pos here, foldLineEnds_append lineEnd apart, rest, here]
    · rw [if_neg here, List.singleton_append, foldLineEnds_cons (Ne.symm plain.1), rest]

/-! ### Lines one after another -/

theorem splitLines_lineEnd (plain : '\n' ∉ first) (rest : List Char) :
    splitLines (first ++ '\n' :: rest) = (first ++ ['\n']) :: splitLines rest := by
  induction first with
  | nil => rfl
  | cons c first ih =>
    simp only [List.mem_cons, not_or] at plain
    rw [List.cons_append, splitLines, if_neg (Ne.symm plain.1), ih plain.2]
    rfl

/-- The complete lines of a text are its first lines whatever the text goes on with, and the
others are those of what is left with that behind it. -/
theorem splitLines_cutLines (text more : List Char) :
    splitLines (foldLineEnds (text ++ more)) =
      (cutLines text).1 ++ splitLines (foldLineEnds ((cutLines text).2 ++ more)) := by
  fun_induction cutLines text with
  | case1 | case2 => rfl
  | case3 rest lines last cut ih =>
    rw [cut] at ih
    simp only [List.cons_append, foldLineEnds, splitLines, ih, ↓reduceIte]
  | case4 rest nonempty apart lines last cut ih =>
    -- Another character stands behind the carriage return, so no line feed belongs to it.
    have alone : foldLineEnds ('\r' :: (rest ++ more)) = '\n' :: foldLineEnds (rest ++ more) := by
      obtain ⟨c, rest, rfl⟩ := List.exists_cons_of_ne_nil nonempty
      exact LineEnd.foldLineEnds_append .carriageReturn fun _ here => apart rest (by simpa using here)
    rw [cut] at ih
    rw [List.cons_append, alone, splitLines, if_pos rfl, ih, List.cons_append]
  | case5 rest lines last cut ih =>
    rw [cut] at ih
    rw [List.cons_append, foldLineEnds_cons (by decide), splitLines, if_pos rfl, ih,
      List.cons_append]
  | case6 c rest _ _ notReturn notFeed last cut ih =>
    rw [cut, List.nil_append] at ih
    rw [List.nil_append, List.cons_append, List.cons_append, foldLineEnds_cons notReturn,
      foldLineEnds_cons notReturn, splitLines, splitLines, ih]
  | case7 c rest _ _ notReturn notFeed line lines last cut ih =>
    rw [cut] at ih
    rw [List.cons_append, foldLineEnds_cons notReturn, splitLines, if_neg notFeed, ih]
    rfl

theorem splitLines_last (plain : '\n' ∉ text) (nonempty : text ≠ []) :
    splitLines text = [text] := by
  induction text with
  | nil => contradiction
  | cons c text ih =>
    simp only [List.mem_cons, not_or] at plain
    rw [splitLines, if_neg (Ne.symm plain.1)]
    by_cases last : text = []
    · rw [last]
      rfl
    · rw [ih plain.2 last]

/-- Texts without a line feed that are put on a line each are these lines. -/
theorem splitLines_onLines {texts : List (List Char)} (plain : ∀ text ∈ texts, '\n' ∉ text) :
    splitLines (onLines texts) = texts.map (· ++ ['\n']) := by
  induction texts with
  | nil => rfl
  | cons text texts ih =>
    obtain ⟨here, others⟩ := List.forall_mem_cons.mp plain
    have shape : onLines (text :: texts) = text ++ '\n' :: onLines texts := by
      rw [onLines, List.flatMap_cons, List.append_assoc]
      rfl
    rw [shape, splitLines_lineEnd here, ih others, List.map_cons]

/-- What holds of the empty text and of every single line, and of a text if it holds of
what follows its first line end, holds of all texts. -/
theorem line_induction {motive : List Char → Prop} (empty : motive [])
    (last : ∀ text, '\n' ∉ text → text ≠ [] → motive text)
    (lineEnd : ∀ first rest, '\n' ∉ first → motive rest → motive (first ++ '\n' :: rest))
    (text : List Char) : motive text := by
  by_cases ended : '\n' ∈ text
  · obtain ⟨first, rest, shape, plain⟩ := List.eq_append_cons_of_mem ended
    have shorter : rest.length < text.length := by
      rw [shape, List.length_append, List.length_cons]
      omega
    rw [shape]
    exact lineEnd first rest plain (line_induction empty last lineEnd rest)
  · by_cases nonempty : text = []
    · rwa [nonempty]
    · exact last text ended nonempty
termination_by text.length

/-- What stands behind the last line end of a text is its last line. -/
theorem splitLines_concat {last : List Char} (plain : '\n' ∉ last) (nonempty : last ≠ [])
    (text : List Char) :
    ∃ earlier, splitLines (text ++ '\n' :: last) = earlier ++ [last] := by
  induction text using line_induction with
  | empty =>
    refine ⟨[['\n']], ?_⟩
    rw [splitLines_lineEnd List.not_mem_nil, splitLines_last plain nonempty]
    rfl
  | last text unbroken _ =>
    refine ⟨[text ++ ['\n']], ?_⟩
    rw [splitLines_lineEnd unbroken, splitLines_last plain nonempty]
    rfl
  | lineEnd first rest unbroken ih =>
    obtain ⟨earlier, shape⟩ := ih
    refine ⟨(first ++ ['\n']) :: earlier, ?_⟩
    rw [List.append_assoc, List.cons_append, splitLines_lineEnd unbroken, shape]
    rfl

/-- The last of several texts on a line each stays the last line, whatever lines the others
have. -/
theorem splitLines_joinLines {last : List Char} (plain : '\n' ∉ last) (nonempty : last ≠ [])
    (texts : List (List Char)) :
    ∃ earlier, splitLines (joinLines (texts ++ [last])) = earlier ++ [last] := by
  rw [joinLines_concat]
  induction texts using List.reverseRecOn with
  | nil => exact ⟨[], splitLines_last plain nonempty⟩
  | append_singleton texts text _ =>
    rw [onLines, List.flatMap_append, List.flatMap_singleton, ← onLines, ← List.append_assoc,
      List.append_assoc _ ['\n'], List.singleton_append]
    exact splitLines_concat plain nonempty _

end ScriptLexer.Text
