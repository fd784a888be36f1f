import ScriptLexer.Proofs.Trivia

/-! Quotes in pairs. In a source without two adjacent slashes there is no comment that could
hold a quote, so every quote opens a string or closes the one that is open. The number of
quotes alone tells how many strings there are and whether the last one is left open. -/
namespace ScriptLexer

open Source

variable {c : Char} {body after source : List Char} {reading : Reading} {line : Nat}

/-- How many quotes belong to a span that reads so. Comments are left out of account. -/
def Source.Reading.quotes : Reading → Nat
  | token kind _ => if kind = .string then 2 else 0
  | fault .unterminatedString => 1
  | fault (.unexpectedCharacter _) | trivia => 0

def Finding.isString : Finding → Bool
  | token found => found.kind == .string
  | diagnostic _ => false

def Finding.isOpenString : Finding → Bool
  | diagnostic (.unterminatedString _) => true
  | diagnostic _ | token _ => false

theorem Finding.isOpenString_iff {finding : Finding} :
    finding.isOpenString = true ↔ ∃ line, finding = .diagnostic (.unterminatedString line) := by
  constructor
  · intro opens
    cases finding with
    | token found => cases opens
    | diagnostic found => cases found <;> first | exact ⟨_, rfl⟩ | cases opens
  · rintro ⟨line, rfl⟩
    rfl

/-! ### Quotes of a span -/

/-- Only strings and comments hold quotes. -/
theorem Source.Cut.no_quote (cut : Cut c body reading after) (unquoted : c ≠ '"')
    (plain : ¬['/', '/'] <:+: c :: body) : '"' ∉ c :: body := by
  have behind : '"' ∉ body := by
    intro quote
    cases cut with
    | extended => simp at quote
    | @comment text => exact plain ⟨[], text, rfl⟩
    | string | openString => exact unquoted rfl
    | whole begins inside => exact absurd (inside '"' quote) (by decide)
    | @fraction _ whole places _ begins inside nonempty digits =>
      have member : '"' ∈ whole ∨ '"' ∈ places := by simpa using quote
      exact absurd (member.elim (inside '"') (digits '"')) (by decide)
    | name begins inside =>
      have sign : isNamePart '"' = false := isNamePart_of_mem_signs (by decide)
      simp [inside '"' quote] at sign
    | _ => simp at quote
  simp [behind, unquoted.symm]

/-- A span that no quote begins is neither a string nor left open. -/
theorem Source.Cut.quotes_eq_zero (cut : Cut c body reading after) (unquoted : c ≠ '"')
    (plain : ¬['/', '/'] <:+: c :: body) : reading.quotes = 0 := by
  have absent := cut.no_quote unquoted plain
  cases reading with
  | token kind literal =>
    refine if_neg ?_
    rintro rfl
    obtain ⟨text, rfl⟩ := Pass.cut_string cut
    exact absent (by simp)
  | fault fault =>
    cases cut with
    | openString => exact absurd rfl unquoted
    | nothing => rfl
  | trivia => rfl

/-- The quotes of a span are those that its reading tells. -/
theorem Source.Cut.count_quote (cut : Cut c body reading after)
    (plain : ¬['/', '/'] <:+: c :: body) : (c :: body).count '"' = reading.quotes := by
  by_cases quoted : c = '"'
  · subst quoted
    have string : opening '"' = .string := rfl
    cases cut with
    | string inside =>
      have unquoted := List.count_eq_zero.mpr fun member => inside '"' member rfl
      simp [Reading.quotes, unquoted]
    | openString inside =>
      have unquoted := List.count_eq_zero.mpr fun member => inside '"' member rfl
      simp [Reading.quotes, unquoted]
    | name begins => exact absurd begins (by decide)
    | mark begins | bare begins | extended begins | padding begins | whole begins
    | fraction begins | nothing begins => cases begins
  · rw [cut.quotes_eq_zero quoted plain]
    exact List.count_eq_zero.mpr (cut.no_quote quoted plain)

/-! ### Quotes of a source -/

/-- What a span is found to be tells its quotes. -/
theorem quotes_eq_finding? (span : List Char) (reading : Reading) (line : Nat) :
    let finding := (Entry.finding? ⟨span, reading, line⟩).toList
    reading.quotes = 2 * finding.countP Finding.isString + finding.countP Finding.isOpenString := by
  cases reading with
  | token kind literal => by_cases string : kind = .string <;>
      simp [Reading.quotes, Entry.finding?, Finding.isString, Finding.isOpenString, string]
  | fault fault => cases fault <;> rfl
  | trivia => rfl

/-- Every string that is found has two quotes, a string that is left open has one, and there
are no other quotes. -/
theorem count_quote_eq (plain : ¬['/', '/'] <:+: source) (line : Nat) :
    source.count '"' =
      2 * (found line source).countP Finding.isString +
        (found line source).countP Finding.isOpenString := by
  induction source using source_induction generalizing line with
  | empty => rfl
  | @span c body reading after cut ih =>
    have shape : c :: (body ++ after) = (c :: body) ++ after := rfl
    rw [shape] at plain
    have before := cut.count_quote fun pair => plain (pair.trans (List.prefix_append _ _).isInfix)
    have behind := ih (fun pair => plain (pair.trans (List.suffix_append _ _).isInfix))
      (line + (c :: body).count '\n')
    have tells := quotes_eq_finding? (c :: body) reading (line + (c :: body).count '\n')
    rw [cut.found_eq, List.countP_append, List.countP_append, shape, List.count_append, before,
      behind]
    omega

/-- A span that is not an open string is not found to be one. -/
theorem not_isOpenString_of_finding? {span : List Char} {finding : Finding}
    (closed : reading ≠ .fault .unterminatedString)
    (held : Entry.finding? ⟨span, reading, line⟩ = some finding) : ¬finding.isOpenString := by
  cases reading with
  | token kind literal =>
    rw [← Option.some.inj held]
    exact Bool.false_ne_true
  | fault fault =>
    cases fault with
    | unterminatedString => exact absurd rfl closed
    | unexpectedCharacter found =>
      rw [← Option.some.inj held]
      exact Bool.false_ne_true
  | trivia => cases held

/-- A string that is left open is found last, on the last line, and no other is left open. -/
theorem exists_before_open {opened : Int}
    (member : .diagnostic (.unterminatedString opened) ∈ found line source) :
    ∃ earlier, found line source = earlier ++ [.diagnostic (.unterminatedString opened)] ∧
      opened = (line + source.count '\n' : Nat) ∧ ∀ finding ∈ earlier, ¬finding.isOpenString := by
  induction source using source_induction generalizing line with
  | empty => cases member
  | @span c body reading after cut ih =>
    by_cases closed : reading = .fault .unterminatedString
    · subst closed
      cases cut with
      | openString inside =>
        rw [List.append_nil, found_open inside] at member ⊢
        cases List.mem_singleton.mp member
        exact ⟨[], rfl, rfl, fun _ held => absurd held List.not_mem_nil⟩
    · rw [cut.found_eq] at member ⊢
      have first : ∀ finding ∈
          (Entry.finding? ⟨c :: body, reading, line + (c :: body).count '\n'⟩).toList,
          ¬finding.isOpenString := fun finding held =>
        not_isOpenString_of_finding? closed (Option.mem_toList.mp held)
      rcases List.mem_append.mp member with here | later
      · exact absurd (Finding.isOpenString_iff.mpr ⟨_, rfl⟩) (first _ here)
      · obtain ⟨earlier, shape, lines, others⟩ := ih later
        refine ⟨_ ++ earlier, by rw [shape, List.append_assoc], ?_, ?_⟩
        · rw [lines, Nat.add_assoc, ← List.count_append, List.cons_append]
        · intro finding held
          rcases List.mem_append.mp held with new | old
          · exact first finding new
          · exact others finding old

/-- At most one string is left open. -/
theorem countP_isOpenString_le (line : Nat) (source : List Char) :
    (found line source).countP Finding.isOpenString ≤ 1 := by
  by_cases opens : ∃ opened, .diagnostic (.unterminatedString opened) ∈ found line source
  · obtain ⟨opened, member⟩ := opens
    obtain ⟨earlier, shape, _, others⟩ := exists_before_open member
    rw [shape, List.countP_append, List.countP_eq_zero.mpr others]
    exact Nat.le_refl 1
  · have none : (found line source).countP Finding.isOpenString = 0 := by
      refine List.countP_eq_zero.mpr fun finding held isOpen => opens ?_
      obtain ⟨opened, rfl⟩ := Finding.isOpenString_iff.mp isOpen
      exact ⟨opened, held⟩
    rw [none]
    exact Nat.zero_le 1

end ScriptLexer
