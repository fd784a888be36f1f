import ScriptLexer.Source.Cut

/-! The lexical grammar of scripts, class by class and without regard to what
surrounds a text. A text of some class is read in one way only, the first span of a
source is of some class unless it is faulty, and it is the longest text of any class
with which the source begins. -/
namespace ScriptLexer.Source

open Text

/-- The marks of one character. -/
def marks : List (Char × Kind) :=
  [('(', .leftParen), (')', .rightParen), ('{', .leftBrace), ('}', .rightBrace), (',', .comma),
   ('.', .dot), ('-', .minus), ('+', .plus), (';', .semicolon), ('*', .star), ('/', .slash)]

/-- The marks that may be followed by an equals sign: the kinds without it and with it. -/
def operators : List (Char × Kind × Kind) :=
  [('!', .bang, .bangEqual), ('=', .equal, .equalEqual), ('<', .less, .lessEqual),
   ('>', .greater, .greaterEqual)]

/-- The texts of the lexical classes, each with its reading. Nothing is said about
where a text ends inside a longer one. -/
inductive Lexeme : List Char → Reading → Prop
  | mark {c kind} (listed : (c, kind) ∈ marks) : Lexeme [c] (.token kind none)
  | bare {c bare extended} (listed : (c, bare, extended) ∈ operators) :
      Lexeme [c] (.token bare none)
  | extended {c bare extended} (listed : (c, bare, extended) ∈ operators) :
      Lexeme [c, '='] (.token extended none)
  | comment {text} (inside : '\n' ∉ text) : Lexeme ('/' :: '/' :: text) .trivia
  | blank {c} (listed : c ∈ [' ', '\t', '\r', '\n']) : Lexeme [c] .trivia
  | string {text} (inside : '"' ∉ text) :
      Lexeme ('"' :: text ++ ['"']) (.token .string (some (.text text)))
  | whole {whole} (nonempty : whole ≠ []) (digits : ∀ d ∈ whole, d.isDigit = true) :
      Lexeme whole (.token .number (some (.number (.ofDecimal whole))))
  | fraction {whole places} (nonempty : whole ≠ []) (digits : ∀ d ∈ whole, d.isDigit = true)
      (precise : places ≠ []) (behind : ∀ d ∈ places, d.isDigit = true) :
      Lexeme (whole ++ '.' :: places)
        (.token .number (some (.number (.ofDecimal (whole ++ '.' :: places)))))
  | keyword {c text word} (begins : isNameStart c = true)
      (inside : ∀ d ∈ text, isNamePart d = true) (spelled : c :: text = Keyword.spelling word) :
      Lexeme (c :: text) (.token (.reserved word) none)
  | identifier {c text} (begins : isNameStart c = true) (inside : ∀ d ∈ text, isNamePart d = true)
      (unreserved : ∀ word, c :: text ≠ Keyword.spelling word) :
      Lexeme (c :: text) (.token .identifier none)

variable {c : Char} {text body rest after : List Char} {reading other : Reading} {word : Keyword}

theorem ofWord_spelling (word : Keyword) : Kind.ofWord word.spelling = .reserved word := by
  rw [Kind.ofWord, Keyword.ofText?_eq_some_iff.mpr rfl]

theorem ofWord_unreserved (unreserved : ∀ word, text ≠ Keyword.spelling word) :
    Kind.ofWord text = .identifier := by
  rw [Kind.ofWord]
  split
  · rename_i word found
    exact absurd (Keyword.ofText?_eq_some_iff.mp found) (unreserved word)
  · rfl

theorem lexeme_of_name (begins : isNameStart c = true)
    (inside : ∀ d ∈ text, isNamePart d = true) :
    Lexeme (c :: text) (.token (.ofWord (c :: text)) none) := by
  by_cases reserved : ∃ word, c :: text = Keyword.spelling word
  · obtain ⟨word, spelled⟩ := reserved
    have kind : Kind.ofWord (c :: text) = .reserved word := by rw [spelled, ofWord_spelling]
    rw [kind]
    exact .keyword begins inside spelled
  · have unreserved : ∀ word, c :: text ≠ Keyword.spelling word :=
      fun word spelled => reserved ⟨word, spelled⟩
    rw [ofWord_unreserved unreserved]
    exact .identifier begins inside unreserved

/-- The table of marks lists what the lexer takes for marks. -/
theorem mem_marks_of_loneMark {kind : Kind} (begins : loneMark? c = some kind) :
    (c, kind) ∈ marks := by
  unfold loneMark? at begins
  split at begins <;> first | (cases begins; decide) | cases begins

theorem mem_operators_of_extensibleMark {bare extended : Kind}
    (begins : extensibleMark? c = some (bare, extended)) : (c, bare, extended) ∈ operators := by
  unfold extensibleMark? at begins
  split at begins <;> first | (cases begins; decide) | cases begins

/-- A span that is not faulty is of the class that its reading says. -/
theorem cut_lexeme (cut : Cut c body reading after) (sound : ∀ fault, reading ≠ .fault fault) :
    Lexeme (c :: body) reading := by
  cases cut with
  | mark begins => exact .mark (mem_marks_of_loneMark begins)
  | bare begins alone => exact .bare (mem_operators_of_extensibleMark begins)
  | extended begins => exact .extended (mem_operators_of_extensibleMark begins)
  | slash alone => exact .mark (by decide)
  | comment inside stops => exact .comment fun member => inside '\n' member rfl
  | padding begins =>
    exact .blank (by rcases eq_of_isPadding begins with rfl | rfl | rfl <;> simp)
  | lineEnd => exact .blank (by decide)
  | string inside => exact .string fun member => inside '"' member rfl
  | openString inside => exact absurd rfl (sound _)
  | whole begins inside stops pointless =>
    exact .whole (by simp) (by simpa [begins] using inside)
  | @fraction _ whole places _ begins inside nonempty behind stops =>
    have digits : ∀ d ∈ c :: whole, d.isDigit = true := by simpa [begins] using inside
    exact .fraction (by simp) digits nonempty behind
  | name begins inside stops => exact lexeme_of_name begins inside
  | nothing begins => exact absurd rfl (sound _)

theorem read_of_name (begins : isNameStart c = true) :
    read (c :: text) = .token (.ofWord (c :: text)) none := by
  simp [read, readFrom, opening_of_isNameStart begins]

theorem read_of_digit (begins : c.isDigit = true) :
    read (c :: text) = .token .number (some (.number (.ofDecimal (c :: text)))) := by
  simp [read, readFrom, opening_of_isDigit begins]

/-- No text is of two classes with different readings. -/
theorem Lexeme.read_eq (lexeme : Lexeme text reading) : read text = reading := by
  cases lexeme with
  | mark listed =>
    have table : ∀ entry ∈ marks, read [entry.1] = .token entry.2 none := by decide
    exact table _ listed
  | bare listed =>
    have table : ∀ entry ∈ operators, read [entry.1] = .token entry.2.1 none := by decide
    exact table _ listed
  | extended listed =>
    have table : ∀ entry ∈ operators, read [entry.1, '='] = .token entry.2.2 none := by decide
    exact table _ listed
  | comment inside => rfl
  | blank listed =>
    simp only [List.mem_cons, List.not_mem_nil, or_false] at listed
    rcases listed with rfl | rfl | rfl | rfl <;> rfl
  | @string text inside =>
    have quote : opening '"' = .string := rfl
    simp [read, readFrom, quote]
  | whole nonempty digits =>
    obtain ⟨c, rest, rfl⟩ := List.exists_cons_of_ne_nil nonempty
    exact read_of_digit (digits c (by simp))
  | fraction nonempty digits precise behind =>
    obtain ⟨c, rest, rfl⟩ := List.exists_cons_of_ne_nil nonempty
    exact read_of_digit (digits c (by simp))
  | keyword begins inside spelled => rw [read_of_name begins, spelled, ofWord_spelling]
  | identifier begins inside unreserved => rw [read_of_name begins, ofWord_unreserved unreserved]

theorem length_le_takeWhile {wanted : Char → Bool} (inside : ∀ d ∈ text, wanted d = true)
    (after : List Char) : text.length ≤ ((text ++ after).takeWhile wanted).length := by
  rw [List.takeWhile_append_of_pos inside]
  simp

theorem takeWhile_le_numberTail (rest : List Char) :
    (rest.takeWhile Char.isDigit).length ≤ numberTail rest := by
  simp only [numberTail]
  split
  · split <;> omega
  · exact Nat.le_refl _

theorem fraction_le_numberTail {places : List Char} (digits : ∀ d ∈ text, d.isDigit = true)
    (precise : places ≠ []) (behind : ∀ d ∈ places, d.isDigit = true) (after : List Char) :
    text.length + 1 + places.length ≤ numberTail (text ++ '.' :: (places ++ after)) := by
  have stretch : (text ++ '.' :: (places ++ after)).takeWhile Char.isDigit = text :=
    takeWhile_exact digits (by simp)
  have bound := length_le_takeWhile behind after
  have positive : 0 < places.length := List.length_pos_iff.mpr precise
  rw [numberTail, stretch, List.drop_left]
  simp only
  split <;> omega

/-- A span reaches at least as far as any text of a class with which its source begins. -/
theorem Lexeme.length_le_tail (lexeme : Lexeme (c :: body) reading) (after : List Char) :
    body.length ≤ tail c (body ++ after) := by
  generalize shape : c :: body = text at lexeme
  cases lexeme with
  | mark | bare | blank =>
    cases shape
    simp
  | extended listed =>
    cases shape
    have table : ∀ entry ∈ operators, opening entry.1 = .extensibleMark entry.2.1 entry.2.2 := by
      decide
    simp [tail, table _ listed]
  | @comment text inside =>
    cases shape
    have stretch : text.length ≤ ((text ++ after).takeWhile (· != '\n')).length :=
      length_le_takeWhile (fun d member => by
        simpa using fun same : d = '\n' => inside (same ▸ member)) after
    change _ ≤ 1 + ((text ++ after).takeWhile (· != '\n')).length
    simp
    omega
  | @string text inside =>
    cases shape
    have stretch : (text ++ '"' :: after).takeWhile (· != '"') = text :=
      takeWhile_exact (fun d member => by
        simpa using fun same : d = '"' => inside (same ▸ member)) (by simp)
    change _ ≤ stringTail (text ++ ['"'] ++ after)
    simp [stringTail, stretch]
  | whole nonempty digits =>
    subst shape
    obtain ⟨begins, inside⟩ := List.forall_mem_cons.mp digits
    have stretch := length_le_takeWhile inside after
    rw [tail, opening_of_isDigit begins]
    exact Nat.le_trans stretch (takeWhile_le_numberTail _)
  | @fraction whole places nonempty digits precise behind =>
    obtain ⟨first, whole, rfl⟩ := List.exists_cons_of_ne_nil nonempty
    cases shape
    obtain ⟨begins, inside⟩ := List.forall_mem_cons.mp digits
    have bound := fraction_le_numberTail inside precise behind after
    rw [tail, opening_of_isDigit begins]
    simp at bound ⊢
    omega
  | keyword begins inside | identifier begins inside =>
    cases shape
    rw [tail, opening_of_isNameStart begins]
    exact length_le_takeWhile inside after

end ScriptLexer.Source
