import ScriptLexer.Source.Reading
import ScriptLexer.Source.Span
import ScriptLexer.Text.Delimited

/-! The first span of a source as a relation: what it may hold, how it reads, and
what may follow it. `tail` and `read` compute the span that the relation describes,
and every source that is not empty has one. -/
namespace ScriptLexer.Source

open Text

/-- The source `c :: (body ++ after)` begins with the span `c :: body`, which reads
as `reading`. What follows a span is only constrained where it could belong to it. -/
inductive Cut : (c : Char) → (body : List Char) → Reading → (after : List Char) → Prop
  | mark {c kind after} (begins : loneMark? c = some kind) : Cut c [] (.token kind none) after
  | bare {c bare extended after} (begins : extensibleMark? c = some (bare, extended))
      (alone : after.head? ≠ some '=') : Cut c [] (.token bare none) after
  | extended {c bare extended after} (begins : extensibleMark? c = some (bare, extended)) :
      Cut c ['='] (.token extended none) after
  | slash {after} (alone : after.head? ≠ some '/') : Cut '/' [] (.token .slash none) after
  | comment {text after} (inside : ∀ d ∈ text, d ≠ '\n') (stops : ∀ d ∈ after.head?, d = '\n') :
      Cut '/' ('/' :: text) .trivia after
  | padding {c after} (begins : isPadding c = true) : Cut c [] .trivia after
  | lineEnd {after} : Cut '\n' [] .trivia after
  | string {text after} (inside : ∀ d ∈ text, d ≠ '"') :
      Cut '"' (text ++ ['"']) (.token .string (some (.text text))) after
  | openString {text} (inside : ∀ d ∈ text, d ≠ '"') :
      Cut '"' text (.fault .unterminatedString) []
  | whole {c whole after} (begins : c.isDigit = true) (inside : ∀ d ∈ whole, d.isDigit = true)
      (stops : ∀ d ∈ after.head?, d.isDigit = false)
      (pointless : ∀ d later, after = '.' :: d :: later → d.isDigit = false) :
      Cut c whole (.token .number (some (.number (.ofDecimal (c :: whole))))) after
  | fraction {c whole places after} (begins : c.isDigit = true)
      (inside : ∀ d ∈ whole, d.isDigit = true) (nonempty : places ≠ [])
      (behind : ∀ d ∈ places, d.isDigit = true) (stops : ∀ d ∈ after.head?, d.isDigit = false) :
      Cut c (whole ++ '.' :: places)
        (.token .number (some (.number (.ofDecimal (c :: (whole ++ '.' :: places)))))) after
  | name {c text after} (begins : isNameStart c = true) (inside : ∀ d ∈ text, isNamePart d = true)
      (stops : ∀ d ∈ after.head?, isNamePart d = false) :
      Cut c text (.token (.ofWord (c :: text)) none) after
  | nothing {c after} (begins : opening c = .nothing) :
      Cut c [] (.fault (.unexpectedCharacter c)) after

variable {c : Char} {text body whole places after : List Char} {reading : Reading}
  {kind bare extended : Kind}

theorem opening_of_loneMark (begins : loneMark? c = some kind) : opening c = .mark kind := by
  simp [opening, begins]

theorem opening_of_extensibleMark (begins : extensibleMark? c = some (bare, extended)) :
    opening c = .extensibleMark bare extended := by
  have lone : loneMark? c = none := by
    unfold extensibleMark? at begins
    split at begins <;> first | rfl | contradiction
  simp [opening, lone, begins]

theorem opening_of_isPadding (begins : isPadding c = true) : opening c = .padding := by
  rcases eq_of_isPadding begins with rfl | rfl | rfl <;> rfl

theorem numberTail_whole (inside : ∀ d ∈ whole, d.isDigit = true)
    (stops : ∀ d ∈ after.head?, d.isDigit = false)
    (pointless : ∀ d later, after = '.' :: d :: later → d.isDigit = false) :
    numberTail (whole ++ after) = whole.length := by
  rw [numberTail, takeWhile_exact inside stops, List.drop_left]
  split
  · rename_i places
    cases places with
    | nil => rfl
    | cons d later => simp [pointless d later rfl]
  · rfl

theorem numberTail_fraction (inside : ∀ d ∈ whole, d.isDigit = true) (nonempty : places ≠ [])
    (behind : ∀ d ∈ places, d.isDigit = true) (stops : ∀ d ∈ after.head?, d.isDigit = false) :
    numberTail (whole ++ '.' :: (places ++ after)) = whole.length + 1 + places.length := by
  have digits : (whole ++ '.' :: (places ++ after)).takeWhile Char.isDigit = whole :=
    takeWhile_exact inside (by simp)
  rw [numberTail, digits, List.drop_left]
  simp only [takeWhile_exact behind stops]
  cases places with
  | nil => contradiction
  | cons d places => rfl

/-- A span reaches exactly as far as its first character and what follows decide. -/
theorem Cut.tail_eq (cut : Cut c body reading after) : tail c (body ++ after) = body.length := by
  cases cut with
  | mark begins => simp [tail, opening_of_loneMark begins]
  | bare begins alone => simp [tail, opening_of_extensibleMark begins, alone]
  | extended begins => simp [tail, opening_of_extensibleMark begins]
  | slash alone =>
    have single : commentTail after = 0 := by
      unfold commentTail
      split
      · simp at alone
      · rfl
    exact single
  | @comment text after inside stops =>
    have line : (text ++ after).takeWhile (· != '\n') = text :=
      takeWhile_exact (by simpa using inside) (by simpa using stops)
    show commentTail ('/' :: (text ++ after)) = _
    simp [commentTail, line, Nat.add_comm]
  | padding begins => simp [tail, opening_of_isPadding begins]
  | lineEnd => rfl
  | @string text after inside =>
    have unquoted : (text ++ '"' :: after).takeWhile (· != '"') = text :=
      takeWhile_exact (by simpa using inside) (by simp)
    show stringTail (text ++ ['"'] ++ after) = _
    simp [stringTail, unquoted]
  | openString inside =>
    have unquoted : (body ++ []).takeWhile (· != '"') = body :=
      takeWhile_exact (by simpa using inside) (by simp)
    show stringTail (body ++ []) = _
    rw [stringTail, unquoted]
    simp
  | whole begins inside stops pointless =>
    simp [tail, opening_of_isDigit begins, numberTail_whole inside stops pointless]
  | fraction begins inside nonempty behind stops =>
    simp [tail, opening_of_isDigit begins, numberTail_fraction inside nonempty behind stops,
      Nat.add_assoc, Nat.add_comm 1]
  | name begins inside stops =>
    simp [tail, opening_of_isNameStart begins, takeWhile_exact inside stops]
  | nothing begins => simp [tail, begins]

/-- The reading of a span is a matter of its text alone. -/
theorem Cut.read_eq (cut : Cut c body reading after) : read (c :: body) = reading := by
  cases cut with
  | mark begins => simp [read, readFrom, opening_of_loneMark begins]
  | bare begins alone => simp [read, readFrom, opening_of_extensibleMark begins]
  | extended begins => simp [read, readFrom, opening_of_extensibleMark begins]
  | slash alone => rfl
  | comment inside stops => rfl
  | padding begins => simp [read, readFrom, opening_of_isPadding begins]
  | lineEnd => rfl
  | @string text after inside =>
    have quote : opening '"' = .string := rfl
    simp [read, readFrom, quote]
  | openString inside =>
    have quote : opening '"' = .string := rfl
    simp only [read, readFrom, quote]
    split
    · rename_i last
      exact absurd rfl (inside _ (List.mem_of_getLast? last))
    · rfl
  | whole begins inside stops pointless => simp [read, readFrom, opening_of_isDigit begins]
  | fraction begins inside nonempty behind stops =>
    simp [read, readFrom, opening_of_isDigit begins]
  | name begins inside stops => simp [read, readFrom, opening_of_isNameStart begins]
  | nothing begins => simp [read, readFrom, begins]

private theorem exists_cut_slash (rest : List Char) :
    ∃ body reading after, rest = body ++ after ∧ Cut '/' body reading after := by
  by_cases comment : rest.head? = some '/'
  · obtain ⟨rest, rfl⟩ := List.head?_eq_some_iff.mp comment
    obtain ⟨text, after, rfl, inside, stops⟩ := exists_stretch (· != '\n') rest
    exact ⟨'/' :: text, _, after, rfl, .comment (by simpa using inside) (by simpa using stops)⟩
  · exact ⟨[], _, rest, rfl, .slash comment⟩

private theorem exists_cut_string (rest : List Char) :
    ∃ body reading after, rest = body ++ after ∧ Cut '"' body reading after := by
  obtain ⟨text, after, rfl, inside, stops⟩ := exists_stretch (· != '"') rest
  cases after with
  | nil => exact ⟨text, _, [], rfl, .openString (by simpa using inside)⟩
  | cons quote after =>
    obtain rfl : quote = '"' := by simpa using stops
    exact ⟨text ++ ['"'], _, after, by simp, .string (by simpa using inside)⟩

private theorem exists_cut_number (begins : c.isDigit = true) (rest : List Char) :
    ∃ body reading after, rest = body ++ after ∧ Cut c body reading after := by
  obtain ⟨whole, after, rfl, inside, stops⟩ := exists_stretch Char.isDigit rest
  by_cases point : ∃ d later, after = '.' :: d :: later ∧ d.isDigit = true
  · obtain ⟨d, later, rfl, digit⟩ := point
    obtain ⟨places, after, rfl, behind, ends⟩ := exists_stretch Char.isDigit later
    exact ⟨whole ++ '.' :: d :: places, _, after, by simp,
      .fraction begins inside (by simp) (by simpa [digit] using behind) ends⟩
  · refine ⟨whole, _, after, rfl, .whole begins inside stops ?_⟩
    intro d later shape
    rw [Bool.eq_false_iff]
    exact fun digit => point ⟨d, later, shape, digit⟩

/-- Every source that is not empty has a first span. -/
theorem exists_cut (c : Char) (rest : List Char) :
    ∃ body reading after, rest = body ++ after ∧ Cut c body reading after := by
  have fits := opening_fits c
  cases begins : opening c with rw [begins] at fits
  | mark kind => exact ⟨[], _, rest, rfl, .mark fits⟩
  | extensibleMark bare extended =>
    by_cases equals : rest.head? = some '='
    · obtain ⟨after, rfl⟩ := List.head?_eq_some_iff.mp equals
      exact ⟨['='], _, after, rfl, .extended fits⟩
    · exact ⟨[], _, rest, rfl, .bare fits equals⟩
  | slash =>
    cases fits
    exact exists_cut_slash rest
  | padding => exact ⟨[], _, rest, rfl, .padding fits⟩
  | lineEnd =>
    cases fits
    exact ⟨[], _, rest, rfl, .lineEnd⟩
  | string =>
    cases fits
    exact exists_cut_string rest
  | number => exact exists_cut_number fits rest
  | name =>
    obtain ⟨text, after, rfl, inside, stops⟩ := exists_stretch isNamePart rest
    exact ⟨text, _, after, rfl, .name fits inside stops⟩
  | nothing => exact ⟨[], _, rest, rfl, .nothing begins⟩

/-- Only a line end itself and a string can hold line ends. -/
theorem Cut.one_line (cut : Cut c body reading after) (notLineEnd : opening c ≠ .lineEnd)
    (notString : opening c ≠ .string) : '\n' ∉ c :: body := by
  have first : '\n' ≠ c := by rintro rfl; exact notLineEnd rfl
  have behind : '\n' ∉ body := by
    intro lineEnd
    cases cut with
    | extended => simp at lineEnd
    | comment inside => exact inside '\n' (by simpa using lineEnd) rfl
    | string | openString => exact notString rfl
    | whole begins inside => exact absurd (inside '\n' lineEnd) (by decide)
    | @fraction _ whole places _ begins inside nonempty behind =>
      have member : '\n' ∈ whole ∨ '\n' ∈ places := by simpa using lineEnd
      exact absurd (member.elim (inside '\n') (behind '\n')) (by decide)
    | name begins inside =>
      have sign : isNamePart '\n' = false := isNamePart_of_mem_signs (by decide)
      simp [inside '\n' lineEnd] at sign
    | _ => simp at lineEnd
  simp [first, behind]

/-- Blanks and line ends, which end every span outside strings and comments. -/
def separators : List Char := [' ', '\r', '\t', '\n']

/-- What `later` begins with would not lengthen a span more than what `after` begins with:
it begins in the same way, or with a separator. Only a line end stops a comment. -/
structure Yields (after later : List Char) : Prop where
  head : ∀ d ∈ later.head?, d ∈ separators ∨ after.head? = some d
  point : ∀ d rest, later = '.' :: d :: rest → d.isDigit = true → ∃ rest', after = '.' :: d :: rest'
  lineEnd : (∀ d ∈ after.head?, d = '\n') → ∀ d ∈ later.head?, d = '\n'

/-- The separators and the quote of a string. None of them belongs to a span before it
that is neither a string nor a comment. -/
def closers : List Char := '"' :: separators

/-- What `later` begins with would not lengthen a span more than what `after` begins with,
comments and strings left out of account: it begins in the same way, or with a closer. -/
structure Spares (after later : List Char) : Prop where
  head : ∀ d ∈ later.head?, d ∈ closers ∨ after.head? = some d
  point : ∀ d rest, later = '.' :: d :: rest → d.isDigit = true → ∃ rest', after = '.' :: d :: rest'

theorem Yields.spares {later : List Char} (yields : Yields after later) : Spares after later where
  head d begins := (yields.head d begins).imp_left (List.mem_cons_of_mem '"')
  point := yields.point

/-- What begins with a closer, or does not begin at all, lengthens no span. -/
theorem spares_of_closer {later : List Char} (closer : ∀ d ∈ later.head?, d ∈ closers) :
    Spares after later where
  head d begins := .inl (closer d begins)
  point := by
    rintro d rest rfl _
    exact absurd (closer '.' rfl) (by decide)

theorem Spares.stops {later : List Char} {wanted : Char → Bool} (spares : Spares after later)
    (foreign : closers.any wanted = false) (stops : ∀ d ∈ after.head?, wanted d = false) :
    ∀ d ∈ later.head?, wanted d = false := by
  intro d begins
  rcases spares.head d begins with closer | same
  · simpa using List.any_eq_false.mp foreign d closer
  · exact stops d same

theorem Spares.head_ne {later : List Char} (spares : Spares after later)
    (foreign : c ∉ closers) (other : after.head? ≠ some c) : later.head? ≠ some c := by
  intro begins
  rcases spares.head c begins with closer | same
  · exact foreign closer
  · exact other same

/-- A span stays what it is before anything that spares it, unless it is a string that is
not closed. A comment also needs the end of its line where it was. -/
theorem Cut.keep {later : List Char} (cut : Cut c body reading after)
    (spares : Spares after later) (closed : reading ≠ .fault .unterminatedString)
    (lineEnd : c = '/' → reading = .trivia → (∀ d ∈ after.head?, d = '\n') →
      ∀ d ∈ later.head?, d = '\n') : Cut c body reading later := by
  cases cut with
  | mark begins => exact .mark begins
  | bare begins alone => exact .bare begins (spares.head_ne (by decide) alone)
  | extended begins => exact .extended begins
  | slash alone => exact .slash (spares.head_ne (by decide) alone)
  | comment inside stops => exact .comment inside (lineEnd rfl rfl stops)
  | padding begins => exact .padding begins
  | lineEnd => exact .lineEnd
  | string inside => exact .string inside
  | openString inside => contradiction
  | whole begins inside stops pointless =>
    -- The only span that looks two characters ahead.
    refine .whole begins inside (spares.stops (by decide) stops) fun d rest shape => ?_
    rw [Bool.eq_false_iff]
    intro digit
    obtain ⟨rest', shape'⟩ := spares.point d rest shape digit
    exact absurd digit (by simp [pointless d rest' shape'])
  | fraction begins inside nonempty behind stops =>
    exact .fraction begins inside nonempty behind (spares.stops (by decide) stops)
  | name begins inside stops =>
    exact .name begins inside (spares.stops (by decide) stops)
  | nothing begins => exact .nothing begins

/-- A span stays what it is before anything that yields to it. Only a string that is not
closed takes all that follows. -/
theorem Cut.yield {later : List Char} (cut : Cut c body reading after)
    (yields : Yields after later) (closed : reading ≠ .fault .unterminatedString) :
    Cut c body reading later :=
  cut.keep yields.spares closed fun _ _ stops => yields.lineEnd stops

/-- The first span of a source, and the spans of what follows it. -/
theorem Cut.spans_eq (cut : Cut c body reading after) :
    spans (c :: (body ++ after)) = (c :: body) :: spans after := by
  rw [spans_cons, cut.tail_eq, List.take_left, List.drop_left]

/-- What holds of the empty source, and of every source if it holds behind its first
span, holds of all sources. -/
theorem source_induction {motive : List Char → Prop} (empty : motive [])
    (span : ∀ {c body reading after}, Cut c body reading after → motive after →
      motive (c :: (body ++ after)))
    (source : List Char) : motive source := by
  match source with
  | [] => exact empty
  | c :: rest =>
    obtain ⟨body, reading, after, rfl, cut⟩ := exists_cut c rest
    exact span cut (source_induction empty span after)
termination_by source.length

end ScriptLexer.Source
