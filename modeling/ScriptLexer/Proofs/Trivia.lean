import ScriptLexer.Proofs.Findings

/-! Blanks and comments do not matter. Between any two spans of a source blanks can be
put in, and the blanks and comments of the source can be written otherwise or, in the
case of comments, left out: the same tokens and diagnostics are found, on the same
lines. The edited source may be cut into other spans than the source, since a comment
and a string that is not closed take the blanks behind them. -/
namespace ScriptLexer

open Source

/-- A run of spaces, tabs and carriage returns. It may be empty. -/
def Padding (text : List Char) : Prop := ∀ d ∈ text, isPadding d = true

/-- A comment, without the line end behind it. -/
def Comment (text : List Char) : Prop := ∃ inside, text = '/' :: '/' :: inside ∧ '\n' ∉ inside

/-- What may be written in the place of a span. -/
inductive Rewrites : (span text : List Char) → Prop
  | kept {span} : Rewrites span span
  | padding {blank run} (was : isPadding blank = true) (nonempty : run ≠ []) (blanks : Padding run) :
      Rewrites [blank] run
  | removed {span} (was : Comment span) : Rewrites span []
  | comment {span text} (was : Comment span) (becomes : Comment text) : Rewrites span text

/-- Each span of a source is rewritten, with any padding before it, and padding follows
the last. -/
inductive Edits : (spans : List (List Char)) → (edited : List Char) → Prop
  | ending {gap} (padding : Padding gap) : Edits [] gap
  | span {gap span text others rest} (padding : Padding gap) (rewrites : Rewrites span text)
      (later : Edits others rest) : Edits (span :: others) (gap ++ (text ++ rest))

/-- The same is found in both texts, wherever they stand, and what follows them is on the
same line. -/
structure Alike (text other : List Char) : Prop where
  found_eq : ∀ line, found line text = found line other
  lines_eq : text.count '\n' = other.count '\n'

variable {c : Char} {body text other gap after later : List Char} {reading : Reading}
  {source edited : List Char}

theorem Alike.symm (alike : Alike text other) : Alike other text :=
  ⟨fun line => (alike.found_eq line).symm, alike.lines_eq.symm⟩

theorem Alike.trans {third : List Char} (first : Alike text other) (second : Alike other third) :
    Alike text third :=
  ⟨fun line => (first.found_eq line).trans (second.found_eq line),
    first.lines_eq.trans second.lines_eq⟩

theorem Padding.separators (padding : Padding gap) : ∀ d ∈ gap, d ∈ separators := by
  intro d member
  rcases eq_of_isPadding (padding d member) with rfl | rfl | rfl <;> decide

theorem Padding.closers (padding : Padding gap) : ∀ d ∈ gap, d ∈ closers := by
  intro d member
  exact List.mem_cons_of_mem _ (padding.separators d member)

theorem Padding.count (padding : Padding gap) : gap.count '\n' = 0 := by
  rw [List.count_eq_zero]
  intro member
  cases padding '\n' member

theorem Padding.alike (padding : Padding gap) (after : List Char) : Alike (gap ++ after) after where
  found_eq line := by rw [found_separators padding.separators, padding.count, Nat.add_zero]
  lines_eq := by rw [List.count_append, padding.count, Nat.zero_add]

/-- Texts that begin with the same span are alike if the texts behind it are. -/
theorem Source.Cut.alike (cut : Cut c body reading after) (cut' : Cut c body reading later)
    (alike : Alike later after) : Alike (c :: (body ++ later)) (c :: (body ++ after)) where
  found_eq line := by rw [cut.found_eq, cut'.found_eq, alike.found_eq]
  lines_eq := by simp [List.count_cons, alike.lines_eq]

/-- A comment before the end of its line is not found to be anything. -/
theorem Comment.alike (comment : Comment text) (stops : ∀ d ∈ after.head?, d = '\n') :
    Alike (text ++ after) after := by
  obtain ⟨inside, rfl, oneLine⟩ := comment
  have cut : Cut '/' ('/' :: inside) .trivia after :=
    .comment (fun d member same => oneLine (same ▸ member)) stops
  have counts : ('/' :: '/' :: inside).count '\n' = 0 := by simp [List.count_eq_zero, oneLine]
  constructor
  · intro line
    exact (cut.found_trivia line).trans (by rw [counts, Nat.add_zero])
  · rw [List.count_append, counts, Nat.zero_add]

/-- A span that is a comment reaches to the end of its line. -/
theorem comment_stops (cut : Cut c body reading after) (comment : Comment (c :: body)) :
    ∀ d ∈ after.head?, d = '\n' := by
  obtain ⟨inside, shape, _⟩ := comment
  cases cut with
  | comment _ stops => exact stops
  | openString => simp at shape
  | string => simp at shape
  | extended begins => simp at shape
  | whole begins =>
    obtain ⟨rfl, _⟩ := List.cons.inj shape
    cases begins
  | fraction begins =>
    obtain ⟨rfl, _⟩ := List.cons.inj shape
    cases begins
  | name begins =>
    obtain ⟨rfl, _⟩ := List.cons.inj shape
    exact absurd begins (by decide)
  | _ => simp at shape

theorem cut_comment (cut : Cut '/' body .trivia after) : Comment ('/' :: body) := by
  cases cut with
  | comment inside => exact ⟨_, rfl, fun member => inside '\n' member rfl⟩
  | padding begins => cases begins

/-- What begins an edited source ends the span before it or begins the source as well. -/
theorem Edits.head (edits : Edits (spans source) edited) :
    ∀ d ∈ edited.head?, d ∈ closers ∨ source.head? = some d := by
  intro d begins
  induction source using source_induction generalizing edited with
  | empty =>
    cases edits with
    | ending padding => exact .inl (padding.closers d (List.mem_of_mem_head? begins))
  | @span c body reading after cut ih =>
    rw [cut.spans_eq] at edits
    cases edits with
    | @span gap _ text _ rest padding rewrites later =>
      cases gap with
      | cons first gap =>
        cases begins
        exact .inl (padding.closers _ List.mem_cons_self)
      | nil =>
        cases rewrites with
        | kept => exact .inr begins
        | padding was nonempty blanks =>
          obtain ⟨first, run, rfl⟩ := List.exists_cons_of_ne_nil nonempty
          cases begins
          exact .inl (blanks.closers _ List.mem_cons_self)
        | removed was =>
          -- Only a line end can stand behind a comment.
          rcases ih later begins with closer | same
          · exact .inl closer
          · rw [comment_stops cut was d same]
            exact .inl (by decide)
        | comment was becomes =>
          obtain ⟨inside, shape, _⟩ := was
          obtain ⟨inside', rfl, _⟩ := becomes
          cases shape
          exact .inr begins

/-- A point and a digit in an edited source stand together in the source as well. -/
theorem Edits.point {d : Char} (edits : Edits (spans source) ('.' :: d :: later))
    (digit : d.isDigit = true) : ∃ rest, source = '.' :: d :: rest := by
  obtain ⟨rest, rfl⟩ : ∃ rest, source = '.' :: rest := by
    rcases edits.head '.' rfl with closer | same
    · exact absurd closer (by decide)
    · exact List.head?_eq_some_iff.mp same
  -- The point is a span by itself, so the digit begins what stands behind that span.
  have cut : Cut '.' [] (.token .dot none) rest := .mark rfl
  have shape : spans ('.' :: rest) = ['.'] :: spans rest := cut.spans_eq
  rw [shape] at edits
  generalize edited_eq : '.' :: d :: later = edited at edits
  cases edits with
  | @span gap _ text _ behind padding rewrites onward =>
    cases gap with
    | cons first gap =>
      obtain ⟨rfl, _⟩ := List.cons.inj edited_eq
      cases padding '.' List.mem_cons_self
    | nil =>
      cases rewrites with
      | kept =>
        obtain rfl : d :: later = behind := (List.cons.inj edited_eq).2
        rcases onward.head d rfl with closer | same
        · have foreign : closers.any Char.isDigit = false := by decide
          exact absurd digit (List.any_eq_false.mp foreign d closer)
        · obtain ⟨rest', rfl⟩ := List.head?_eq_some_iff.mp same
          exact ⟨rest', rfl⟩
      | padding was => cases was
      | removed was | comment was =>
        obtain ⟨_, shape, _⟩ := was
        simp at shape

theorem Edits.spares (edits : Edits (spans source) edited) : Spares source edited where
  head := edits.head
  point := by
    rintro d rest rfl digit
    exact edits.point digit

/-- Up to a line end or the end of a source, an edit only puts padding in. -/
theorem Edits.lineEnd (edits : Edits (spans source) edited) (stops : ∀ d ∈ source.head?, d = '\n') :
    ∃ gap later, edited = gap ++ later ∧ Padding gap ∧ Edits (spans source) later ∧
      ∀ d ∈ later.head?, d = '\n' := by
  cases source with
  | nil =>
    cases edits with
    | ending padding => exact ⟨edited, [], by simp, padding, .ending (by simp [Padding]), by simp⟩
  | cons c source =>
    obtain rfl : c = '\n' := stops c rfl
    have cut : Cut '\n' [] .trivia source := .lineEnd
    have shape : spans ('\n' :: source) = ['\n'] :: spans source := cut.spans_eq
    rw [shape] at edits ⊢
    cases edits with
    | @span gap _ text _ rest padding rewrites later =>
      cases rewrites with
      | kept =>
        have onward : Edits (['\n'] :: spans source) ([] ++ (['\n'] ++ rest)) :=
          .span (by simp [Padding]) .kept later
        exact ⟨gap, _, rfl, padding, onward, by simp⟩
      | padding was => cases was
      | removed was | comment was =>
        obtain ⟨_, shape, _⟩ := was
        simp at shape

/-- Whatever comment stands before an edited rest, it takes the padding behind it too. -/
theorem Edits.behind_comment (edits : Edits (spans after) later)
    (alike : ∀ {edited}, Edits (spans after) edited → Alike edited after) (comment : Comment text)
    (stops : ∀ d ∈ after.head?, d = '\n') : Alike (text ++ later) after := by
  obtain ⟨gap, rest, rfl, padding, onward, ends⟩ := edits.lineEnd stops
  obtain ⟨inside, rfl, oneLine⟩ := comment
  have wider : Comment ('/' :: '/' :: (inside ++ gap)) :=
    ⟨_, rfl, by simpa [oneLine] using List.count_eq_zero.mp padding.count⟩
  have shape : '/' :: '/' :: inside ++ (gap ++ rest) = '/' :: '/' :: (inside ++ gap) ++ rest := by
    simp
  rw [shape]
  exact (wider.alike ends).trans (alike onward)

/-- A string that is not closed is all there is to find in what it begins. -/
theorem found_open (inside : ∀ d ∈ body, d ≠ '"') (line : Nat) :
    found line ('"' :: body) =
      [.diagnostic (.unterminatedString (line + ('"' :: body).count '\n' : Nat))] := by
  have cut : Cut '"' body (.fault .unterminatedString) [] := .openString inside
  have held := cut.found_fault line
  rwa [List.append_nil] at held

/-- Padding behind a string that is not closed belongs to the string. -/
theorem alike_open (inside : ∀ d ∈ body, d ≠ '"') (padding : Padding gap) :
    Alike ('"' :: (body ++ gap)) ('"' :: body) := by
  have wider : ∀ d ∈ body ++ gap, d ≠ '"' := by
    intro d member
    rcases List.mem_append.mp member with within | behind
    · exact inside d within
    · rintro rfl
      cases padding _ behind
  have counts : ('"' :: (body ++ gap)).count '\n' = ('"' :: body).count '\n' := by
    simp [List.count_append, padding.count]
  refine ⟨fun line => ?_, counts⟩
  rw [found_open wider, found_open inside, counts]

/-- A span that is kept is found to be what it was, if the edited rest behind it is alike to
the rest. -/
theorem Edits.kept (edits : Edits (spans after) later) (cut : Cut c body reading after)
    (alike : ∀ {edited}, Edits (spans after) edited → Alike edited after) :
    Alike (c :: (body ++ later)) (c :: (body ++ after)) := by
  -- Comments and open strings take the padding behind them, other spans stop before it.
  by_cases comment : Comment (c :: body)
  · have stops := comment_stops cut comment
    exact (edits.behind_comment alike comment stops).trans (comment.alike stops).symm
  by_cases closed : reading = .fault .unterminatedString
  · subst closed
    cases cut with
    | openString inside =>
      cases edits with
      | ending padding =>
        rw [List.append_nil]
        exact alike_open inside padding
  · refine cut.alike (cut.keep edits.spares closed ?_) (alike edits)
    rintro rfl rfl
    exact absurd (cut_comment cut) comment

/-- Edited sources are alike to their sources. The spans of the source carry the induction,
as the edited source may have others. -/
theorem Edits.alike (edits : Edits (spans source) edited) : Alike edited source := by
  induction source using source_induction generalizing edited with
  | empty =>
    cases edits with
    | ending padding => simpa using padding.alike []
  | @span c body reading after cut ih =>
    rw [cut.spans_eq] at edits
    cases edits with
    | span padding rewrites later =>
      refine (padding.alike _).trans ?_
      cases rewrites with
      | kept => exact later.kept cut ih
      | padding was nonempty blanks =>
        have blank : Padding [c] := by simpa [Padding] using was
        exact (blanks.alike _).trans ((ih later).trans (blank.alike after).symm)
      | removed was =>
        exact (ih later).trans (was.alike (comment_stops cut was)).symm
      | comment was becomes =>
        have stops := comment_stops cut was
        exact (later.behind_comment ih becomes stops).trans (was.alike stops).symm

/-- Padding between the spans of a source, other blanks for its blanks and other comments
or none for its comments leave its tokens and its diagnostics as they are, each with its
line, and in the same order. -/
theorem trivia_insignificant
    (edits : Edits ((Pass.start source).heads.tail.map (·.cursor.lexeme)) edited) :
    (Scan.ofSource edited).tokens = (Scan.ofSource source).tokens ∧
      (Scan.ofSource edited).diagnostics = (Scan.ofSource source).diagnostics ∧
      Pass.chronicle edited = Pass.chronicle source := by
  rw [Pass.lexemes_heads] at edits
  have alike : Alike edited source := edits.alike
  have lastLine : (Scan.ofSource edited).lastLine = (Scan.ofSource source).lastLine := by
    rw [Scan.lastLine_eq, Scan.lastLine_eq, alike.lines_eq]
  refine ⟨?_, ?_, ?_⟩
  · rw [Scan.tokens_eq, Scan.tokens_eq, alike.found_eq, lastLine]
  · rw [Scan.diagnostics_eq, Scan.diagnostics_eq, alike.found_eq]
  · rw [Pass.chronicle_eq, Pass.chronicle_eq, alike.found_eq, lastLine]

/-- Quotes in a new comment open no string, and padding behind an open string is not seen. -/
theorem quotes_in_comment_insignificant :
    let source := "x // a\n/\"s".toList
    let edited := "\tx \r//\"b \n / \"s\t".toList
    Edits ((Pass.start source).heads.tail.map (·.cursor.lexeme)) edited ∧
      (Scan.ofSource edited).tokens =
        [⟨.identifier, ['x'], none, 1⟩, ⟨.slash, ['/'], none, 2⟩, .endOfInput 2] ∧
      (Scan.ofSource edited).diagnostics = [.unterminatedString 2] := by
  intro source edited
  have rounds : (Pass.start source).heads.tail.map (·.cursor.lexeme) =
      [['x'], [' '], "// a".toList, ['\n'], ['/'], "\"s".toList] := by decide +kernel
  have edits : Edits ((Pass.start source).heads.tail.map (·.cursor.lexeme)) edited := by
    have was : Comment "// a".toList := ⟨" a".toList, rfl, by decide⟩
    have becomes : Comment "//\"b ".toList := ⟨"\"b ".toList, rfl, by decide⟩
    have nothing : Padding [] := by simp [Padding]
    have blank : Padding [' '] := by simp [Padding, isPadding]
    have tab : Padding ['\t'] := by simp [Padding, isPadding]
    have blanks : Padding [' ', '\r'] := by simp [Padding, isPadding]
    rw [rounds]
    exact .span tab .kept <| .span nothing (.padding rfl (by simp) blanks) <|
      .span nothing (.comment was becomes) <| .span nothing .kept <| .span blank .kept <|
      .span blank .kept <| .ending tab
  obtain ⟨tokens, diagnostics, _⟩ := trivia_insignificant edits
  exact ⟨edits, tokens.trans (by decide +kernel), diagnostics.trans (by decide +kernel)⟩

end ScriptLexer
