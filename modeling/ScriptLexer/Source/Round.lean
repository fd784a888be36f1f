import ScriptLexer.Source.Cut
import ScriptLexer.Source.Entry
import ScriptLexer.Source.Pass

/-! What one round of a pass does: it takes the first span of what is left of the
source, and adds the token or the diagnostic that the span is. The loops of a round
look at one character at a time, and here they are shown to reach as far as the
span does. -/
namespace ScriptLexer.Pass

open Text

open Source

variable {pass : Pass} {c : Char} {body text span after : List Char} {reading : Reading}
  {kind : Kind} {literal : Option Literal}

/-- The pass after a span that reads as `reading`: its cursor stands behind the span,
and the span is added as what it is. -/
def absorb (span : List Char) (reading : Reading) (pass : Pass) : Pass :=
  let entry : Entry := ⟨span, reading, pass.line + span.count '\n'⟩
  { cursor := pass.cursor.markStart.skip span.length
    line := entry.line
    tokens := pass.tokens ++ entry.token?.toList
    diagnostics := pass.diagnostics ++ entry.diagnostic?.toList
    errorCount := pass.errorCount + entry.diagnostic?.toList.length }

/-- What is left after a span is what followed it. -/
theorem rest_absorb (ahead : pass.cursor.rest = span ++ after) :
    (pass.absorb span reading).cursor.rest = after := by
  simp [absorb, ahead]

/-- The lexeme of a round is the span it took. -/
theorem lexeme_absorb (ahead : pass.cursor.rest = span ++ after) :
    (pass.absorb span reading).cursor.lexeme = span := by
  simp [absorb, Cursor.lexeme_skip_markStart, ahead]

@[simp] theorem start_absorb (span : List Char) (reading : Reading) (pass : Pass) :
    (pass.absorb span reading).cursor.start = pass.cursor.current := rfl

@[simp] theorem current_absorb (span : List Char) (reading : Reading) (pass : Pass) :
    (pass.absorb span reading).cursor.current = pass.cursor.current + span.length := rfl

@[simp] theorem line_absorb (span : List Char) (reading : Reading) (pass : Pass) :
    (pass.absorb span reading).line = pass.line + span.count '\n' := rfl

theorem absorb_token (span : List Char) (kind : Kind) (literal : Option Literal) (pass : Pass) :
    (pass.absorb span (.token kind literal)).tokens =
        pass.tokens ++ [⟨kind, span, literal, (pass.line + span.count '\n' : Nat)⟩] ∧
      (pass.absorb span (.token kind literal)).diagnostics = pass.diagnostics := by
  simp [absorb, Entry.token?, Entry.diagnostic?]

theorem absorb_fault (span : List Char) (fault : Fault) (pass : Pass) :
    (pass.absorb span (.fault fault)).tokens = pass.tokens ∧
      (pass.absorb span (.fault fault)).diagnostics =
        pass.diagnostics ++ [fault.diagnostic (pass.line + span.count '\n')] := by
  cases fault <;> simp [absorb, Entry.token?, Entry.diagnostic?, Fault.diagnostic]

theorem absorb_trivia (span : List Char) (pass : Pass) :
    (pass.absorb span .trivia).tokens = pass.tokens ∧
      (pass.absorb span .trivia).diagnostics = pass.diagnostics := by
  simp [absorb, Entry.token?, Entry.diagnostic?]

theorem inComment_of_head (cursor : Cursor) (c : Char)
    (found : cursor.rest.head? = some c) : inComment cursor c = (c != '\n') := by
  obtain ⟨rest, ahead⟩ := List.head?_eq_some_iff.mp found
  simp [inComment, Cursor.atEnd_of_rest ahead]

theorem inComment_of_end (cursor : Cursor) (ended : cursor.rest = []) :
    inComment cursor '\x00' = false := by
  simp [inComment, Cursor.atEnd_iff.mpr ended]

private theorem readSlash_comment (ahead : pass.cursor.rest = '/' :: (text ++ after))
    (inside : ∀ d ∈ text, d ≠ '\n') (stops : ∀ d ∈ after.head?, d = '\n') :
    pass.readSlash = .ok { pass with cursor := pass.cursor.skip (text.length + 1) } := by
  have line : (text ++ after).takeWhile (· != '\n') = text :=
    takeWhile_exact (by simpa using inside) (by simpa using stops)
  have read := Cursor.advanceWhile_eq (· != '\n') inComment_of_head inComment_of_end
    (pass.cursor.skip 1)
  rw [readSlash, Cursor.accept_of_head (by rw [ahead]; rfl)]
  simp [read, ahead, line, Functor.map, Except.map, Nat.add_comm]

private theorem readSlash_alone (alone : pass.cursor.rest.head? ≠ some '/') :
    pass.readSlash = .ok (pass.emit .slash none) := by
  rw [readSlash, Cursor.accept_of_other alone]
  rfl

/-- The text of a string is gone through to its end, with all its lines counted. -/
private theorem readText_eq (pass : Pass) :
    pass.readText = .ok { pass with
      cursor := pass.cursor.skip (pass.cursor.rest.takeWhile (· != '"')).length
      line := pass.line + (pass.cursor.rest.takeWhile (· != '"')).count '\n' } := by
  -- The line counter changes with the cursor, so the induction is over all passes with
  -- the same rest.
  generalize ahead : pass.cursor.rest = rest
  induction rest generalizing pass with
  | nil =>
    rw [readText, Cursor.peek_of_end ahead]
    simp [Cursor.atEnd_iff.mpr ahead]
  | cons c rest ih =>
    rw [readText, Cursor.peek_of_rest ahead]
    by_cases closing : c = '"'
    · simp [closing]
    · have goesOn : (c != '"' && !pass.cursor.atEnd) = true := by
        simp [closing, Cursor.atEnd_of_rest ahead]
      simp only [goesOn, ↓reduceIte]
      split
      · simp_all [Cursor.advance_of_rest ahead]
      · rename_i moved advanced
        obtain ⟨_, _, rfl⟩ := Cursor.advance_inversion advanced
        rw [ih _ (by simp [ahead])]
        by_cases lineEnd : c = '\n' <;> simp [closing, lineEnd, Nat.add_comm, Nat.add_assoc]

private theorem readString_closed (ahead : pass.cursor.rest = text ++ '"' :: after)
    (inside : ∀ d ∈ text, d ≠ '"') :
    pass.readString =
      let cursor := pass.cursor.skip (text.length + 1)
      .ok ({ pass with cursor, line := pass.line + text.count '\n' }.emit .string
        (some (.text (cursor.source.extract (cursor.start + 1) (cursor.current - 1)).toList))) := by
  have unquoted : (text ++ '"' :: after).takeWhile (· != '"') = text :=
    takeWhile_exact (by simpa using inside) (by simp)
  have quote : (pass.cursor.skip text.length).rest = '"' :: after := by simp [ahead]
  simp only [readString, readText_eq, ahead, unquoted]
  simp [bind, Except.bind, pure, Except.pure, Cursor.atEnd_of_rest quote,
    Cursor.advance_of_rest quote]

private theorem readString_open (ahead : pass.cursor.rest = text) (inside : ∀ d ∈ text, d ≠ '"') :
    pass.readString =
      let line := pass.line + text.count '\n'
      .ok ({ pass with cursor := pass.cursor.skip text.length, line }.complain
        (.unterminatedString line)) := by
  have unquoted : (text ++ []).takeWhile (· != '"') = text :=
    takeWhile_exact (by simpa using inside) (by simp)
  have ended : (pass.cursor.skip text.length).atEnd = true := by
    simp [Cursor.atEnd_iff, ahead]
  rw [List.append_nil] at unquoted
  simp only [readString, readText_eq, ahead, unquoted]
  simp [bind, Except.bind, pure, Except.pure, ended]

private theorem readDigits_eq (cursor : Cursor) :
    readDigits cursor = .ok (cursor.skip (cursor.rest.takeWhile Char.isDigit).length) :=
  Cursor.advanceWhile_eq Char.isDigit (fun _ _ _ => rfl) (fun _ _ => rfl) cursor

theorem readDecimal_eq (cursor : Cursor) :
    readDecimal cursor = .ok (cursor.skip (numberTail cursor.rest)) := by
  simp only [readDecimal, readDigits_eq, numberTail]
  generalize (cursor.rest.takeWhile Char.isDigit).length = whole
  simp only [bind, Except.bind, pure, Except.pure, Cursor.peek_zero, Cursor.peek_one,
    Cursor.rest_skip]
  rcases after : cursor.rest.drop whole with _ | ⟨point, places⟩
  · simp
  · by_cases isPoint : point = '.'
    · subst point
      have ahead : (cursor.skip whole).rest = '.' :: places := by simp [after]
      have behind : cursor.rest.drop (whole + 1) = places := by rw [← List.drop_drop, after]; rfl
      rcases places with _ | ⟨digit, places⟩
      · simp
      · cases isDigit : digit.isDigit <;>
          simp [isDigit, Cursor.advance_of_rest ahead, behind, Nat.add_assoc, Nat.add_comm 1]
    · simp [isPoint]

private theorem readNumber_eq (pass : Pass) :
    pass.readNumber =
      let cursor := pass.cursor.skip (numberTail pass.cursor.rest)
      .ok ({ pass with cursor }.emit .number
        (some (.number (Binary64.ofDecimal cursor.lexeme)))) := by
  rw [readNumber, readDecimal_eq]
  rfl

private theorem readName_eq (pass : Pass) :
    pass.readName =
      let cursor := pass.cursor.skip (pass.cursor.rest.takeWhile isNamePart).length
      .ok ({ pass with cursor }.emit (.ofWord cursor.lexeme) none) := by
  have outside : isNamePart '\x00' = false := by decide
  have consumed := @Cursor.advanceWhile_eq (fun _ c => isNamePart c) isNamePart
    (fun _ _ _ => rfl) (fun _ _ => outside) pass.cursor
  rw [readName, consumed]
  rfl

/-- A token that is added behind its span is the token that the span is. -/
private theorem emit_span (kind : Kind) (literal : Option Literal)
    (ahead : pass.cursor.rest = c :: (body ++ after)) :
    emit kind literal { pass with
      cursor := (pass.cursor.markStart.skip 1).skip body.length
      line := pass.line + (c :: body).count '\n' } =
    pass.absorb (c :: body) (.token kind literal) := by
  simp [emit, absorb, Entry.token?, Entry.diagnostic?, Cursor.lexeme_skip_markStart, ahead,
    Nat.add_comm 1]

private theorem emit_line (ahead : pass.cursor.rest = c :: (body ++ after))
    (oneLine : '\n' ∉ c :: body) :
    emit kind literal { pass with cursor := (pass.cursor.markStart.skip 1).skip body.length } =
      pass.absorb (c :: body) (.token kind literal) := by
  rw [← emit_span _ _ ahead, List.count_eq_zero.mpr oneLine]
  rfl

/-- A round takes the first span of what is left, whatever that is. -/
theorem round_eq (cut : Cut c body reading after)
    (ahead : pass.cursor.rest = c :: (body ++ after)) :
    pass.round = .ok (pass.absorb (c :: body) reading) := by
  have advanced : pass.cursor.markStart.advance = .ok (c, pass.cursor.markStart.skip 1) :=
    Cursor.advance_of_rest (by rw [Cursor.rest_markStart, ahead])
  have behind : (pass.cursor.markStart.skip 1).rest = body ++ after := by simp [ahead]
  have lexeme : ((pass.cursor.markStart.skip 1).skip body.length).lexeme = c :: body := by
    simp [Cursor.lexeme_skip_markStart, ahead, Nat.add_comm 1]
  have oneLine := cut.one_line
  rw [round, advanced]
  change dispatch c { pass with cursor := pass.cursor.markStart.skip 1 } = _
  cases cut with
  | mark begins =>
    have opened := opening_of_loneMark begins
    rw [dispatch, opened]
    exact congrArg Except.ok (emit_line ahead (oneLine (by simp [opened]) (by simp [opened])))
  | bare begins alone =>
    have opened := opening_of_extensibleMark begins
    rw [dispatch, opened]
    simp only [Cursor.accept_of_other (by rw [behind]; exact alone)]
    exact congrArg Except.ok (emit_line ahead (oneLine (by simp [opened]) (by simp [opened])))
  | extended begins =>
    have opened := opening_of_extensibleMark begins
    rw [dispatch, opened]
    simp only [Cursor.accept_of_head (by rw [behind]; rfl)]
    exact congrArg Except.ok (emit_line ahead (oneLine (by simp [opened]) (by simp [opened])))
  | slash alone =>
    change readSlash _ = _
    rw [readSlash_alone (by rw [behind]; exact alone)]
    exact congrArg Except.ok (emit_line ahead (by simp))
  | comment inside stops =>
    change readSlash _ = _
    rw [readSlash_comment behind inside stops]
    have counts := List.count_eq_zero.mpr (oneLine (by decide) (by decide))
    simp [absorb, counts, Entry.token?, Entry.diagnostic?, Nat.add_comm 1]
  | padding begins =>
    have opened := opening_of_isPadding begins
    have counts := List.count_eq_zero.mpr (oneLine (by simp [opened]) (by simp [opened]))
    rw [dispatch, opened]
    simp [absorb, counts, Entry.token?, Entry.diagnostic?]
  | lineEnd =>
    change Except.ok _ = _
    simp [absorb, Entry.token?, Entry.diagnostic?]
  | @string text after inside =>
    change readString _ = _
    have onward : (pass.cursor.skip 1).rest = text ++ '"' :: after := by simp [ahead]
    have between : (pass.cursor.source.toList.drop (pass.cursor.current + 1)).take text.length =
        text := by
      change pass.cursor.source.toList.drop (pass.cursor.current + 1) = _ at onward
      rw [onward, List.take_left]
    have token := emit_span .string (some (.text text)) ahead
    rw [readString_closed (by simpa using behind) inside, ← token]
    simp [Cursor.skip, Cursor.markStart, List.extract_eq_take_drop, between, ← Nat.add_assoc]
  | openString inside =>
    change readString _ = _
    rw [readString_open (by simpa using behind) inside]
    simp [absorb, complain, Entry.token?, Entry.diagnostic?, Fault.diagnostic, Nat.add_comm 1]
  | whole begins inside stops pointless =>
    have opened := opening_of_isDigit begins
    rw [dispatch, opened]
    change readNumber _ = _
    rw [readNumber_eq]
    simp only [behind, numberTail_whole inside stops pointless, lexeme]
    exact congrArg Except.ok (emit_line ahead (oneLine (by simp [opened]) (by simp [opened])))
  | @fraction _ whole places _ begins inside nonempty digits stops =>
    have opened := opening_of_isDigit begins
    have length : numberTail (whole ++ '.' :: places ++ after) =
        (whole ++ '.' :: places).length := by
      rw [List.append_assoc, List.cons_append, numberTail_fraction inside nonempty digits stops]
      simp [Nat.add_assoc, Nat.add_comm 1]
    rw [dispatch, opened]
    change readNumber _ = _
    rw [readNumber_eq]
    simp only [behind, length, lexeme]
    exact congrArg Except.ok (emit_line ahead (oneLine (by simp [opened]) (by simp [opened])))
  | name begins inside stops =>
    have opened := opening_of_isNameStart begins
    rw [dispatch, opened]
    change readName _ = _
    rw [readName_eq]
    simp only [behind, takeWhile_exact inside stops, lexeme]
    exact congrArg Except.ok (emit_line ahead (oneLine (by simp [opened]) (by simp [opened])))
  | nothing begins =>
    have counts := List.count_eq_zero.mpr (oneLine (by simp [begins]) (by simp [begins]))
    rw [dispatch, begins]
    simp [absorb, counts, complain, Entry.token?, Entry.diagnostic?, Fault.diagnostic]

end ScriptLexer.Pass
