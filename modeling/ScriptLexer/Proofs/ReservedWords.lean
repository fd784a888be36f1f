import ScriptLexer.Proofs.WrittenTokens

/-! Reserved words, told by their kinds and told by their spelling. Kinds are numbered, and
those of the reserved words lie in one block; spellings stand in a list of their own. On the
tokens of any source the two agree, and a text that is written like a name is one token,
reserved exactly if its whole text is in the list. -/
namespace ScriptLexer

open Source

variable {c : Char} {text body after : List Char} {literal : Option Literal} {word : Keyword}
  {source : List Char} {token : Token}

theorem mem_spellings_iff : text ∈ Keyword.all.map Keyword.spelling ↔
    ∃ word, Keyword.ofText? text = some word := by
  simp only [List.mem_map, Keyword.ofText?_eq_some_iff]
  constructor
  · rintro ⟨word, _, spelled⟩
    exact ⟨word, spelled.symm⟩
  · rintro ⟨word, spelled⟩
    exact ⟨word, word.mem_all, spelled.symm⟩

theorem ofWord_eq (text : List Char) :
    Kind.ofWord text = ((Keyword.ofText? text).map .reserved).getD .identifier := by
  unfold Kind.ofWord
  cases Keyword.ofText? text <;> rfl

/-- A span of a reserved kind spells its word and has no value. -/
theorem cut_reserved (cut : Cut c body (.token (.reserved word) literal) after) :
    c :: body = word.spelling ∧ literal = none := by
  have lexeme := cut_lexeme cut (by simp)
  generalize c :: body = span at lexeme
  cases lexeme with
  | mark listed => simp [marks] at listed
  | bare listed | extended listed => simp [operators] at listed
  | keyword _ _ spelled => exact ⟨spelled, rfl⟩

/-- Whatever surrounds it, a span that spells a reserved word is read as this word. -/
theorem read_spelling (word : Keyword) : read word.spelling = .token (.reserved word) none := by
  cases word <;> rfl

/-- A token in a text is of a reserved kind if its lexeme spells the word, and only then. -/
theorem kind_eq_reserved_iff {line : Nat} (member : .token token ∈ found line source) :
    token.kind = .reserved word ↔ token.lexeme = word.spelling := by
  obtain ⟨c, body, after, lexeme, cut⟩ := exists_cut_of_found member
  rw [lexeme]
  constructor
  · intro kind
    rw [kind] at cut
    exact (cut_reserved cut).1
  · intro spelled
    have same := cut.read_eq
    rw [spelled, read_spelling] at same
    injection same with kind
    exact kind.symm

/-- So it is for the tokens of a scan. The token for the end of the source has no lexeme. -/
theorem Scan.kind_eq_reserved_iff (member : token ∈ (ofSource source).tokens) :
    token.kind = .reserved word ↔ token.lexeme = word.spelling := by
  rw [tokens_eq, List.mem_append] at member
  rcases member with inner | closing
  · obtain ⟨finding, held, same⟩ := List.mem_filterMap.mp inner
    cases finding with
    | token => cases same; exact ScriptLexer.kind_eq_reserved_iff held
    | diagnostic => cases same
  · rw [List.mem_singleton.mp closing]
    constructor
    · nofun
    · intro spelled
      have written : word.spelling ≠ [] := by cases word <;> nofun
      exact absurd spelled.symm written

theorem Scan.literal_of_reserved (member : token ∈ (ofSource source).tokens)
    (kind : token.kind = .reserved word) : token.literal = none := by
  have inner : token.kind ≠ .endOfInput := by rw [kind]; nofun
  obtain ⟨c, body, after, _, cut⟩ := exists_cut_of_found ((mem_tokens inner).mp member)
  rw [kind] at cut
  exact (cut_reserved cut).2

/-- A name alone is one token. -/
theorem scan_name (begins : isNameStart c = true) (inside : ∀ d ∈ text, isNamePart d = true) :
    Scan.ofSource (c :: text) = {
      source := c :: text
      tokens := [⟨.ofWord (c :: text), c :: text, none, 1⟩, .endOfInput 1]
      diagnostics := []
      errorCount := 0
      lastLine := 1 } := by
  have cut : Cut c text (.token (.ofWord (c :: text)) none) [] := .name begins inside (by simp)
  have opened := opening_of_isNameStart begins
  have oneLine : (c :: text).count '\n' = 0 :=
    List.count_eq_zero.mpr (cut.one_line (by simp [opened]) (by simp [opened]))
  have held := cut.found_token 1
  rw [List.append_nil, oneLine, found_nil] at held
  rw [Scan.ofSource_eq_found, held, oneLine]
  rfl

/-- On the tokens of every source, the block of kinds and the list of spellings tell the same
words: a token is of a kind in the block if and only if its lexeme is in the list, and then it
is of the kind of the word that its lexeme spells, without a value. A text that is written like
a name, however long and in whatever script, is scanned to one such token if its whole text is
in the list, and to an identifier if it is not. -/
theorem reserved_as_spelled :
    (∀ source, ∀ token ∈ (Scan.ofSource source).tokens,
      (token.isKeyword = true ↔ token.lexeme ∈ Keyword.all.map Keyword.spelling) ∧
      (token.isKeyword = true →
        (Keyword.ofText? token.lexeme).map .reserved = some token.kind ∧ token.literal = none)) ∧
    ∀ c text, isNameStart c = true → (∀ d ∈ text, isNamePart d = true) →
      Scan.ofSource (c :: text) = {
        source := c :: text
        tokens := [⟨((Keyword.ofText? (c :: text)).map .reserved).getD .identifier, c :: text,
          none, 1⟩, .endOfInput 1]
        diagnostics := []
        errorCount := 0
        lastLine := 1 } := by
  refine ⟨fun source token member => ⟨?_, fun keyword => ?_⟩, fun c text begins inside => ?_⟩
  · rw [mem_spellings_iff, Token.isKeyword, Kind.isKeyword_iff]
    simp only [Scan.kind_eq_reserved_iff member, Keyword.ofText?_eq_some_iff]
  · obtain ⟨word, kind⟩ := Kind.isKeyword_iff.mp keyword
    have spelled := (Scan.kind_eq_reserved_iff member).mp kind
    rw [Keyword.ofText?_eq_some_iff.mpr spelled, kind]
    exact ⟨rfl, Scan.literal_of_reserved member kind⟩
  · rw [← ofWord_eq]
    exact scan_name begins inside

/-- A reserved word between a longer name and a string that hold it, and a name in letters of
two scripts that a reserved word begins. -/
theorem or_as_spelled :
    let source := "orchid or \"or\"".toList
    let token : Token := ⟨.reserved .orWord, "or".toList, none, 1⟩
    token ∈ (Scan.ofSource source).tokens ∧ token.isKeyword = true ∧
      token.lexeme ∈ Keyword.all.map Keyword.spelling ∧ token.literal = none ∧
      isNameStart 'o' = true ∧ (∀ d ∈ "rनाम²".toList, isNamePart d = true) ∧
      (Scan.ofSource ('o' :: "rनाम²".toList)).tokens =
        [⟨.identifier, "orनाम²".toList, none, 1⟩, .endOfInput 1] := by
  intro source token
  have member : token ∈ (Scan.ofSource source).tokens := by decide +kernel
  have keyword : token.isKeyword = true := by decide +kernel
  obtain ⟨agree, read⟩ := reserved_as_spelled.1 source token member
  have begins : isNameStart 'o' = true := by decide +kernel
  have inside : ∀ d ∈ "rनाम²".toList, isNamePart d = true :=
    List.all_eq_true.mp (by decide +kernel)
  refine ⟨member, keyword, agree.mp keyword, (read keyword).2, begins, inside, ?_⟩
  rw [reserved_as_spelled.2 'o' _ begins inside]
  decide +kernel

end ScriptLexer
