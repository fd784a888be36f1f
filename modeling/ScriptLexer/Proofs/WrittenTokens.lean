import ScriptLexer.Proofs.Findings

/-! Tokens written out and scanned again. Kind and value of a token depend on its lexeme
alone, and a separator behind a lexeme ends it wherever it stands. So tokens of any
origin can be written one after another, in any order, and a scan gives them back. -/
namespace ScriptLexer

open Source

/-- A token that is not the end of its source, as the scan of some source gives it. -/
def Emitted (token : Token) : Prop :=
  token.kind ≠ .endOfInput ∧ ∃ source, token ∈ (Scan.ofSource source).tokens

/-- A token to be written, and what is written behind it. -/
structure Piece where
  token : Token
  separator : List Char

namespace Piece

def text (piece : Piece) : List Char := piece.token.lexeme ++ piece.separator

/-- The pieces written one after another. -/
def written (pieces : List Piece) : List Char := pieces.flatMap text

/-- Only blanks and line ends are written between lexemes, and between any two lexemes
there is one at least. -/
structure Separated (pieces : List Piece) : Prop where
  blank : ∀ piece ∈ pieces, ∀ d ∈ piece.separator, d ∈ separators
  apart : ∀ piece ∈ pieces.dropLast, piece.separator ≠ []

end Piece

variable {source : List Char} {token : Token} {piece : Piece} {pieces : List Piece}
  {line : Nat}

/-- A token in a text is a span of it, and its kind and value are the reading of it. -/
theorem exists_cut_of_found (member : .token token ∈ found line source) :
    ∃ c body after, token.lexeme = c :: body ∧ Cut c body (.token token.kind token.literal) after := by
  induction source using source_induction generalizing line with
  | empty => cases member
  | @span c body reading after cut ih =>
    rw [cut.found_eq] at member
    rcases List.mem_append.mp member with first | later
    · cases reading with
      | token kind literal =>
        obtain rfl : token = _ := Finding.token.inj (List.mem_singleton.mp first)
        exact ⟨c, body, after, rfl, cut⟩
      | fault fault => cases List.mem_singleton.mp first
      | trivia => cases first
    · exact ih later

theorem Emitted.exists_cut (emitted : Emitted token) :
    ∃ c body after, token.lexeme = c :: body ∧ Cut c body (.token token.kind token.literal) after := by
  obtain ⟨inner, source, member⟩ := emitted
  exact exists_cut_of_found ((Scan.mem_tokens inner).mp member)

namespace Piece

/-- Behind every lexeme stands what lengthens no span. -/
theorem Separated.spares (separated : Separated (piece :: pieces)) (after : List Char) :
    Spares after (piece.separator ++ written pieces) := by
  apply spares_of_closer
  intro d begins
  cases shape : piece.separator with
  | cons first others =>
    rw [shape] at begins
    cases begins
    have blank := separated.blank piece List.mem_cons_self
    rw [shape] at blank
    exact List.mem_cons_of_mem _ (blank d List.mem_cons_self)
  | nil =>
    cases pieces with
    | nil => simp [shape, written] at begins
    | cons next pieces => exact absurd shape (separated.apart piece List.mem_cons_self)

theorem Separated.tail (separated : Separated (piece :: pieces)) : Separated pieces where
  blank other member := separated.blank other (List.mem_cons_of_mem _ member)
  apart other member := by
    cases pieces with
    | nil => cases member
    | cons next pieces => exact separated.apart other (List.mem_cons_of_mem _ member)

/-- The tokens of the pieces, each with the line of the end of its lexeme in a text that
begins on `line`. -/
def tokensFrom (line : Nat) (pieces : List Piece) : List Token :=
  pieces.mapIdx fun place piece =>
    let upTo := written (pieces.take place) ++ piece.token.lexeme
    { piece.token with line := (line + upTo.count '\n' : Nat) }

theorem tokensFrom_cons (line : Nat) (piece : Piece) (pieces : List Piece) :
    tokensFrom line (piece :: pieces) =
      { piece.token with line := (line + piece.token.lexeme.count '\n' : Nat) } ::
        tokensFrom (line + piece.text.count '\n') pieces := by
  simp [tokensFrom, List.mapIdx_cons, written, Nat.add_assoc, Int.add_assoc]

/-- What is written of the tokens of other sources is found to be the same tokens. -/
theorem found_written (emitted : ∀ piece ∈ pieces, Emitted piece.token)
    (separated : Separated pieces) (line : Nat) :
    found line (written pieces) = (tokensFrom line pieces).map .token := by
  induction pieces generalizing line with
  | nil => rfl
  | cons piece pieces ih =>
    obtain ⟨first, others⟩ := List.forall_mem_cons.mp emitted
    obtain ⟨c, body, after, lexeme, cut⟩ := first.exists_cut
    -- A token is neither a comment nor an open string, so whatever spares it keeps it.
    have cut' : Cut c body _ (piece.separator ++ written pieces) :=
      cut.keep (separated.spares after) (by simp) (by simp)
    have shape : written (piece :: pieces) =
        c :: (body ++ (piece.separator ++ written pieces)) := by
      simp [written, text, lexeme]
    have blank := separated.blank piece List.mem_cons_self
    rw [shape, cut'.found_token, found_separators blank, ih others separated.tail, ← lexeme,
      tokensFrom_cons, text, List.count_append, ← Nat.add_assoc]
    rfl

end Piece

open Piece

/-- Tokens that were found in any sources, written one after another with separators
between them, are scanned without fault to the same kinds, lexemes and values in the
same order, each on the line on which its lexeme ends in the written text. -/
theorem written_tokens_rescan {pieces : List Piece}
    (emitted : ∀ piece ∈ pieces, Emitted piece.token) (separated : Separated pieces) :
    (Scan.ofSource (written pieces)).diagnostics = [] ∧
      (Scan.ofSource (written pieces)).tokens =
        tokensFrom 1 pieces ++ [.endOfInput (1 + (written pieces).count '\n' : Nat)] := by
  have same := found_written emitted separated 1
  constructor
  · rw [Scan.diagnostics_eq, same, Finding.filterMap_diagnostic?_map]
  · rw [Scan.tokens_eq, same, Scan.lastLine_eq, Finding.filterMap_token?_map]

/-- Separators keep marks apart that would otherwise be one, and a token from further down
another source is moved to its new line. -/
theorem written_marks_rescan :
    let bang : Token := ⟨.bang, ['!'], none, 1⟩
    let equal : Token := ⟨.equal, ['='], none, 2⟩
    let text : Token := ⟨.string, "\"\n\"".toList, some (.text ['\n']), 2⟩
    let pieces : List Piece := [⟨bang, "\n".toList⟩, ⟨equal, "\t".toList⟩, ⟨equal, " ".toList⟩,
      ⟨text, "\r\n".toList⟩, ⟨bang, []⟩]
    (∀ piece ∈ pieces, Emitted piece.token) ∧ Separated pieces ∧
      written pieces = "!\n=\t= \"\n\"\r\n!".toList ∧
      (Scan.ofSource (written pieces)).tokens =
        [⟨.bang, ['!'], none, 1⟩, ⟨.equal, ['='], none, 2⟩, ⟨.equal, ['='], none, 2⟩,
          ⟨.string, "\"\n\"".toList, some (.text ['\n']), 3⟩, ⟨.bang, ['!'], none, 4⟩,
          .endOfInput 4] := by
  intro bang equal text pieces
  have emitted : ∀ piece ∈ pieces, Emitted piece.token := by
    have bang_emitted : Emitted bang := ⟨by decide, "!".toList, by decide +kernel⟩
    have equal_emitted : Emitted equal := ⟨by decide, "\n=".toList, by decide +kernel⟩
    have text_emitted : Emitted text := ⟨by decide, "\"\n\"".toList, by decide +kernel⟩
    simp [pieces, bang_emitted, equal_emitted, text_emitted]
  have separated : Separated pieces := by
    constructor <;> simp [pieces, separators]
  obtain ⟨_, tokens⟩ := written_tokens_rescan emitted separated
  exact ⟨emitted, separated, rfl, tokens⟩

end ScriptLexer
