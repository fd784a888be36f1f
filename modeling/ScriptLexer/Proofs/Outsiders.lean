import ScriptLexer.Proofs.Findings

/-! Characters outside the language. They are neither signs nor parts of names, and none of
them is told apart from the others, NUL at the end of a source included: when they are
renamed among themselves, a source is scanned to the same tokens and diagnostics, with the
characters renamed in these as well. -/
namespace ScriptLexer

open Source

/-- A character that is neither a sign of the language nor part of a name. -/
def Outsider (c : Char) : Prop := c ∉ signs ∧ isNamePart c = false

/-- A renaming of the outsiders among themselves, where several may get the same name. All
other characters stay. -/
structure Renames (f : Char → Char) : Prop where
  outsider : ∀ c, Outsider c → Outsider (f c)
  fixed : ∀ c, ¬Outsider c → f c = c

/-- Puts one character in the place of another. -/
def replacing (replaced other : Char) (c : Char) : Char := if c = replaced then other else c

/-! ### What is renamed -/

/-- A text with its characters renamed. Numbers and truth values have none. -/
def Literal.rename (f : Char → Char) : Literal → Literal
  | text value => text (value.map f)
  | boolean value => boolean value
  | nil => nil
  | number value => number value

/-- A token with the characters of its lexeme and of its value renamed. -/
def Token.rename (f : Char → Char) (token : Token) : Token :=
  { token with lexeme := token.lexeme.map f, literal := token.literal.map (.rename f) }

/-- A diagnostic with the offending characters renamed. -/
def Diagnostic.rename (f : Char → Char) : Diagnostic → Diagnostic
  | unexpectedCharacter found line => unexpectedCharacter (found.map f) line
  | unterminatedString line => unterminatedString line
  | general message line place => general message line place

def Finding.rename (f : Char → Char) : Finding → Finding
  | token found => token (found.rename f)
  | diagnostic found => diagnostic (found.rename f)

def Source.Reading.rename (f : Char → Char) : Reading → Reading
  | token kind literal => token kind (literal.map (.rename f))
  | fault (.unexpectedCharacter found) => fault (.unexpectedCharacter (f found))
  | fault .unterminatedString => fault .unterminatedString
  | trivia => trivia

/-- A scan with the characters renamed everywhere. Kinds, numbers and lines stay. -/
def Scan.rename (f : Char → Char) (scan : Scan) : Scan where
  source := scan.source.map f
  tokens := scan.tokens.map (.rename f)
  diagnostics := scan.diagnostics.map (.rename f)
  errorCount := scan.errorCount
  lastLine := scan.lastLine

/-! ### Characters of the language -/

variable {f : Char → Char} {c d : Char} {text body after : List Char} {reading : Reading}
  {kind bare extended : Kind} {wanted : Char → Bool}

theorem not_outsider_of_sign (sign : c ∈ signs) : ¬Outsider c := fun outsider => outsider.1 sign

theorem not_outsider_of_isNamePart (part : isNamePart c = true) : ¬Outsider c := by
  intro outsider
  simp [outsider.2] at part

theorem isNamePart_of_isDigit (digit : c.isDigit = true) : isNamePart c = true := by
  obtain ⟨others, table⟩ : ∃ others, Text.numeralRanges = ⟨0x30, 0x39⟩ :: others := ⟨_, rfl⟩
  obtain ⟨low, high⟩ := isDigit_bounds digit
  have listed : Text.isNumeral c = true := by
    simp [Text.isNumeral, table, Text.Range.anyCovers, low, high]
  simp [isNamePart, listed]

theorem not_outsider_of_isDigit (digit : c.isDigit = true) : ¬Outsider c :=
  not_outsider_of_isNamePart (isNamePart_of_isDigit digit)

theorem not_outsider_of_loneMark (begins : loneMark? c = some kind) : ¬Outsider c := by
  have table : ∀ entry ∈ marks, entry.1 ∈ signs := by decide
  exact not_outsider_of_sign (table _ (mem_marks_of_loneMark begins))

theorem not_outsider_of_extensibleMark (begins : extensibleMark? c = some (bare, extended)) :
    ¬Outsider c := by
  have table : ∀ entry ∈ operators, entry.1 ∈ signs := by decide
  exact not_outsider_of_sign (table _ (mem_operators_of_extensibleMark begins))

theorem not_outsider_of_isPadding (begins : isPadding c = true) : ¬Outsider c := by
  rcases eq_of_isPadding begins with rfl | rfl | rfl <;> exact not_outsider_of_sign (by decide)

/-- Outside strings and comments an outsider is unexpected. -/
theorem Outsider.opening_eq (outsider : Outsider c) : opening c = .nothing := by
  have letter : c.isDigit = false := by
    rw [Bool.eq_false_iff]
    exact fun digit => not_outsider_of_isDigit digit outsider
  have unnamed : isNameStart c = false := by
    rw [Bool.eq_false_iff]
    exact fun begins => not_outsider_of_isNamePart (isNamePart_of_isNameStart begins) outsider
  simp [opening_of_not_sign outsider.1, letter, unnamed]

namespace Renames

/-- A renaming tells outsiders from other characters, so it gives a character of the language
to this character only. -/
theorem eq_iff (renames : Renames f) (inside : ¬Outsider d) : f c = d ↔ c = d := by
  constructor
  · rintro rfl
    by_cases outsider : Outsider c
    · exact absurd (renames.outsider c outsider) inside
    · exact (renames.fixed c outsider).symm
  · rintro rfl
    exact renames.fixed c inside

/-- What no outsider is, a renamed character is if the character was. -/
theorem wanted_eq (renames : Renames f) (inside : ∀ d, wanted d = true → ¬Outsider d) :
    wanted (f c) = wanted c := by
  by_cases outsider : Outsider c
  · have other : wanted c = false := by
      rw [Bool.eq_false_iff]
      exact fun held => inside c held outsider
    rw [other, Bool.eq_false_iff]
    exact fun held => inside (f c) held (renames.outsider c outsider)
  · rw [renames.fixed c outsider]

theorem isDigit_eq (renames : Renames f) (c : Char) : (f c).isDigit = c.isDigit :=
  renames.wanted_eq fun _ => not_outsider_of_isDigit

theorem isNamePart_eq (renames : Renames f) (c : Char) : isNamePart (f c) = isNamePart c :=
  renames.wanted_eq fun _ => not_outsider_of_isNamePart

/-- A text without outsiders stays as it is. -/
theorem map_eq (renames : Renames f) (inside : ∀ d ∈ text, ¬Outsider d) : text.map f = text := by
  rw [List.map_congr_left fun d member => renames.fixed d (inside d member), List.map_id']

/-- A character of the language that is nowhere in a text is nowhere in the renamed text. -/
theorem absent_map (renames : Renames f) (inside : ¬Outsider d) (absent : ∀ e ∈ text, e ≠ d) :
    ∀ e ∈ text.map f, e ≠ d := by
  intro e member same
  obtain ⟨before, held, rfl⟩ := List.mem_map.mp member
  exact absent before held ((renames.eq_iff inside).mp same)

theorem head?_map_ne (renames : Renames f) (inside : ¬Outsider d) (other : text.head? ≠ some d) :
    (text.map f).head? ≠ some d := by
  rw [List.head?_map]
  intro begins
  obtain ⟨first, ahead, same⟩ := Option.map_eq_some_iff.mp begins
  exact other (ahead.trans (congrArg some ((renames.eq_iff inside).mp same)))

theorem count_map (renames : Renames f) (inside : ¬Outsider d) (text : List Char) :
    (text.map f).count d = text.count d := by
  induction text with
  | nil => rfl
  | cons first rest ih => simp [List.count_cons, ih, renames.eq_iff inside]

end Renames

/-! ### Spans and what is found in them -/

theorem stops_map (kept : ∀ d, wanted (f d) = wanted d)
    (stops : ∀ d ∈ after.head?, wanted d = false) :
    ∀ d ∈ (after.map f).head?, wanted d = false := by
  intro d begins
  rw [List.head?_map] at begins
  obtain ⟨first, ahead, rfl⟩ := Option.map_eq_some_iff.mp begins
  rw [kept, stops first ahead]

/-- The first span of a renamed source is the first span of the source, renamed. -/
theorem Source.Cut.rename (renames : Renames f) (cut : Cut c body reading after) :
    Cut (f c) (body.map f) (reading.rename f) (after.map f) := by
  have slash : ¬Outsider '/' := not_outsider_of_sign (by decide)
  have quote : ¬Outsider '"' := not_outsider_of_sign (by decide)
  have equals : ¬Outsider '=' := not_outsider_of_sign (by decide)
  have point : ¬Outsider '.' := not_outsider_of_sign (by decide)
  have lineEnd : ¬Outsider '\n' := not_outsider_of_sign (by decide)
  cases cut with
  | mark begins =>
    rw [renames.fixed c (not_outsider_of_loneMark begins)]
    exact .mark begins
  | bare begins alone =>
    rw [renames.fixed c (not_outsider_of_extensibleMark begins)]
    exact .bare begins (renames.head?_map_ne equals alone)
  | extended begins =>
    rw [renames.fixed c (not_outsider_of_extensibleMark begins), List.map_singleton,
      renames.fixed '=' equals]
    exact .extended begins
  | slash alone =>
    rw [renames.fixed '/' slash]
    exact .slash (renames.head?_map_ne slash alone)
  | comment inside stops =>
    rw [List.map_cons, renames.fixed '/' slash]
    refine .comment (renames.absent_map lineEnd inside) fun d begins => ?_
    rw [List.head?_map] at begins
    obtain ⟨first, ahead, rfl⟩ := Option.map_eq_some_iff.mp begins
    rw [stops first ahead, renames.fixed '\n' lineEnd]
  | padding begins =>
    rw [renames.fixed c (not_outsider_of_isPadding begins)]
    exact .padding begins
  | lineEnd =>
    rw [renames.fixed '\n' lineEnd]
    exact .lineEnd
  | string inside =>
    rw [List.map_append, List.map_singleton, renames.fixed '"' quote]
    exact .string (renames.absent_map quote inside)
  | openString inside =>
    rw [renames.fixed '"' quote]
    exact .openString (renames.absent_map quote inside)
  | whole begins inside stops pointless =>
    rw [renames.fixed c (not_outsider_of_isDigit begins),
      renames.map_eq fun d member => not_outsider_of_isDigit (inside d member)]
    refine .whole begins inside (stops_map renames.isDigit_eq stops) ?_
    intro d later shape
    obtain ⟨first, behind, rfl, isPoint, shape⟩ := List.map_eq_cons_iff.mp shape
    obtain ⟨second, rest, rfl, rfl, rfl⟩ := List.map_eq_cons_iff.mp shape
    obtain rfl : first = '.' := (renames.eq_iff point).mp isPoint
    rw [renames.isDigit_eq, pointless second rest rfl]
  | @fraction _ whole places _ begins inside nonempty behind stops =>
    rw [renames.fixed c (not_outsider_of_isDigit begins), List.map_append, List.map_cons,
      renames.fixed '.' point,
      renames.map_eq fun d member => not_outsider_of_isDigit (inside d member),
      renames.map_eq fun d member => not_outsider_of_isDigit (behind d member)]
    exact .fraction begins inside nonempty behind (stops_map renames.isDigit_eq stops)
  | name begins inside stops =>
    rw [renames.fixed c (not_outsider_of_isNamePart (isNamePart_of_isNameStart begins)),
      renames.map_eq fun d member => not_outsider_of_isNamePart (inside d member)]
    exact .name begins inside (stops_map renames.isNamePart_eq stops)
  | nothing begins =>
    -- A character that begins nothing can still be part of a name, and then it stays.
    refine .nothing ?_
    by_cases outsider : Outsider c
    · exact (renames.outsider c outsider).opening_eq
    · rw [renames.fixed c outsider, begins]

theorem finding?_rename (f : Char → Char) (span : List Char) (reading : Reading) (line : Nat) :
    Entry.finding? ⟨span.map f, reading.rename f, line⟩ =
      (Entry.finding? ⟨span, reading, line⟩).map (.rename f) := by
  cases reading with
  | token kind literal => rfl
  | fault fault => cases fault <;> rfl
  | trivia => rfl

/-- A renamed text holds what the text holds, renamed. -/
theorem found_rename (renames : Renames f) (line : Nat) (text : List Char) :
    found line (text.map f) = (found line text).map (.rename f) := by
  induction text using source_induction generalizing line with
  | empty => rfl
  | @span c body reading after cut ih =>
    have shape : (c :: (body ++ after)).map f = f c :: (body.map f ++ after.map f) := by simp
    have lineEnds : (f c :: body.map f).count '\n' = (c :: body).count '\n' :=
      renames.count_map (not_outsider_of_sign (by decide)) (c :: body)
    rw [shape, (cut.rename renames).found_eq, cut.found_eq, lineEnds, ih, List.map_append,
      ← Option.toList_map, ← finding?_rename]
    rfl

theorem Finding.filterMap_token?_rename (f : Char → Char) (findings : List Finding) :
    (findings.map (rename f)).filterMap token? = (findings.filterMap token?).map (.rename f) := by
  rw [List.filterMap_map, List.map_filterMap]
  congr 1
  funext finding
  cases finding <;> rfl

theorem Finding.filterMap_diagnostic?_rename (f : Char → Char) (findings : List Finding) :
    (findings.map (rename f)).filterMap diagnostic? =
      (findings.filterMap diagnostic?).map (.rename f) := by
  rw [List.filterMap_map, List.map_filterMap]
  congr 1
  funext finding
  cases finding <;> rfl

/-- One outsider can be put in the place of another. -/
theorem renames_replacing {replaced other : Char} (was : Outsider replaced)
    (becomes : Outsider other) : Renames (replacing replaced other) where
  outsider c outsider := by
    unfold replacing
    split
    · exact becomes
    · exact outsider
  fixed c inside := by
    unfold replacing
    split
    · rename_i same
      exact absurd (same ▸ was) inside
    · rfl

/-- NUL, which also stands for the end of a source, is a character like others. -/
theorem outsider_nul : Outsider '\x00' := ⟨by decide, by decide⟩

/-- When the characters outside the language are renamed among themselves, a source is scanned
to the same tokens and diagnostics, renamed likewise: kinds, numbers and lines stay as they
are. In particular every NUL of a source can be replaced by another such character. -/
theorem outsiders_alike :
    (∀ f, Renames f → ∀ source,
      Scan.ofSource (source.map f) = (Scan.ofSource source).rename f) ∧
    ∀ other, Outsider other → ∀ source,
      Scan.ofSource (source.map (replacing '\x00' other)) =
        (Scan.ofSource source).rename (replacing '\x00' other) := by
  have alike (f : Char → Char) (renames : Renames f) (source : List Char) :
      Scan.ofSource (source.map f) = (Scan.ofSource source).rename f := by
    have lineEnd : ¬Outsider '\n' := not_outsider_of_sign (by decide)
    simp only [Scan.ofSource_eq_found, Scan.rename, found_rename renames, renames.count_map lineEnd,
      Finding.filterMap_token?_rename, Finding.filterMap_diagnostic?_rename, List.map_append,
      List.map_singleton, List.length_map]
    rfl
  exact ⟨alike, fun other outsider => alike _ (renames_replacing outsider_nul outsider)⟩

/-- NUL behind a number, in a string, in a comment, in a string that is open and at the end,
and another outsider, are renamed to one and the same character. -/
theorem nul_alike :
    let f := fun c : Char => if c = '\x00' ∨ c = '@' then '#' else c
    let source := "1\x00@ \"\x00\"//\x00\n\"@\x00".toList
    Renames f ∧ Outsider '#' ∧
      Scan.ofSource (source.map f) = (Scan.ofSource source).rename f ∧
      Scan.ofSource (source.map (replacing '\x00' '#')) =
        (Scan.ofSource source).rename (replacing '\x00' '#') ∧
      ((Scan.ofSource source).rename f).tokens =
        [⟨.number, ['1'], some (.number (.ofDecimal ['1'])), 1⟩,
          ⟨.string, "\"#\"".toList, some (.text ['#']), 1⟩, .endOfInput 2] ∧
      ((Scan.ofSource source).rename f).diagnostics =
        [.unexpectedCharacter ['#'] 1, .unexpectedCharacter ['#'] 1, .unterminatedString 2] := by
  intro f source
  have hash : Outsider '#' := ⟨by decide, by decide⟩
  have renames : Renames f := by
    constructor
    · intro c outsider
      by_cases here : c = '\x00' ∨ c = '@'
      · rwa [show f c = '#' from if_pos here]
      · rwa [show f c = c from if_neg here]
    · intro c inside
      refine if_neg ?_
      rintro (rfl | rfl)
      · exact inside outsider_nul
      · exact inside ⟨by decide, by decide⟩
  exact ⟨renames, hash, outsiders_alike.1 f renames source, outsiders_alike.2 '#' hash source,
    by decide +kernel, by decide +kernel⟩

end ScriptLexer
