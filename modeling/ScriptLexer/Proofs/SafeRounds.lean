import ScriptLexer.Proofs.CursorHistories
import ScriptLexer.Proofs.NumberLiterals
import ScriptLexer.Proofs.Rounds
import ScriptLexer.Proofs.TracedRounds

/-! No scan goes wrong. What a round does is followed action by action: a character is only
called for where there is one, only places inside the source are read, each turn of a loop
brings the cursor on, each character has one handler, and only decimals are converted. So every
round succeeds, all loops together take no more turns than the source has characters, and a
scan finishes, whatever takes its reports. -/
namespace ScriptLexer

open Source

variable {source : List Char} {c : Char}

/-! ### What may be done -/

namespace Source.Opening

/-- A character is of the class that an opening says. What begins nothing is of no other. -/
def Claims (c : Char) (part : Opening) : Prop :=
  part.Fits c ∧ (part = .nothing → ∀ other : Opening, other ≠ .nothing → ¬other.Fits c)

theorem eq_of_fits {part : Opening} (fits : part.Fits c) (something : part ≠ .nothing) :
    opening c = part := by
  cases part with
  | mark kind => exact opening_of_loneMark fits
  | extensibleMark bare extended => exact opening_of_extensibleMark fits
  | padding => exact opening_of_isPadding fits
  | number => exact opening_of_isDigit fits
  | name => exact opening_of_isNameStart fits
  | slash | lineEnd | string =>
    cases fits
    rfl
  | nothing => contradiction

/-- Every character is claimed by one opening and by no other. -/
theorem claims_iff {part : Opening} : part.Claims c ↔ part = opening c := by
  constructor
  · rintro ⟨fits, alone⟩
    by_cases nothing : part = .nothing
    · subst nothing
      by_contra other
      exact alone rfl (opening c) (Ne.symm other) (opening_fits c)
    · exact (eq_of_fits fits nothing).symm
  · rintro rfl
    refine ⟨opening_fits c, fun begins other something fits => ?_⟩
    exact something ((eq_of_fits fits something).symm.trans begins)

end Source.Opening

namespace Action

/-- What an action needs in order not to go wrong. -/
def Sound (source : List Char) : Action → Prop
  | .advance cursor => cursor.atEnd = false
  | .access place => place < source.length
  | .slice first last => first ≤ last ∧ last ≤ source.length
  | .turn first last => first < last ∧ last ≤ source.length
  | .handle c part => ∀ other : Opening, other.Claims c ↔ other = part
  | .convert text => ∃ fraction, Denotes text fraction

def isTurn : Action → Bool
  | .turn _ _ => true
  | _ => false

def handled? : Action → Option (Char × Opening)
  | .handle c part => some (c, part)
  | _ => none

end Action

/-- Work that comes to a value after so many turns of its loops. It does nothing that is not
sound, and handles no character. -/
structure Safe {α : Type} (source : List Char) (work : Traced α) (value : α) (turns : Nat) :
    Prop where
  outcome : work.outcome = .ok value
  sound : ∀ action ∈ work.actions, action.Sound source
  turns_eq : work.actions.countP Action.isTurn = turns
  unhandled : work.actions.filterMap Action.handled? = []

namespace Safe

variable {α β : Type} {work : Traced α} {value : α} {turns : Nat}

theorem pure (value : α) : Safe source (Pure.pure value) value 0 where
  outcome := rfl
  sound _ member := absurd member List.not_mem_nil
  turns_eq := rfl
  unhandled := rfl

/-- What follows safe work goes on from its value. -/
theorem bind {next : α → Traced β} {value' : β} {turns' : Nat}
    (first : Safe source work value turns) (second : Safe source (next value) value' turns') :
    Safe source (work >>= next) value' (turns + turns') where
  outcome := by rw [Traced.outcome_bind, first.outcome, Traced.ok_bind, second.outcome]
  sound action member := by
    rw [Traced.actions_bind first.outcome, List.mem_append] at member
    exact member.elim (first.sound action) (second.sound action)
  turns_eq := by
    rw [Traced.actions_bind first.outcome, List.countP_append, first.turns_eq, second.turns_eq]
  unhandled := by
    rw [Traced.actions_bind first.outcome, List.filterMap_append, first.unhandled,
      second.unhandled, List.append_nil]

theorem bind_still {next : α → Traced β} {value' : β} {turns' : Nat}
    (first : Safe source work value 0) (second : Safe source (next value) value' turns') :
    Safe source (work >>= next) value' turns' :=
  Nat.zero_add turns' ▸ first.bind second

theorem bind_last {next : α → Traced β} {value' : β} (first : Safe source work value turns)
    (second : Safe source (next value) value' 0) :
    Safe source (work >>= next) value' turns :=
  first.bind second

theorem attach (safe : Safe source work value turns) :
    Safe source work.attach ⟨value, safe.outcome⟩ turns where
  outcome := Traced.outcome_attach safe.outcome
  sound := safe.sound
  turns_eq := safe.turns_eq
  unhandled := safe.unhandled

/-- A sound action alone is safe work, unless it handles a character. -/
theorem single (action : Action) (sound : action.Sound source)
    (unhandled : [action].filterMap Action.handled? = []) (value : α) :
    Safe source ⟨.ok value, [action]⟩ value ([action].countP Action.isTurn) where
  outcome := rfl
  sound _ member := List.mem_singleton.mp member ▸ sound
  turns_eq := rfl
  unhandled := unhandled

end Safe

/-- Work on a pass that is safe, and takes no more turns than it consumes characters. -/
def Completes (source : List Char) (pass : Pass) (work : Traced Pass) : Prop :=
  ∃ after turns, Safe source work after turns ∧
    pass.cursor.current + turns ≤ after.cursor.current

theorem Safe.completes {α : Type} {work : Traced α} {value : α} {turns : Nat}
    {next : α → Traced Pass} {pass after : Pass} (first : Safe source work value turns)
    (second : Safe source (next value) after 0)
    (bound : pass.cursor.current + turns ≤ after.cursor.current) :
    Completes source pass (work >>= next) :=
  ⟨after, turns, first.bind_last second, bound⟩

/-! ### What is done -/

namespace Traced

variable {cursor : Cursor} {rest : List Char} {places : Nat} {pass : Pass}

theorem access_sound (inside : cursor.Inside source) (there : cursor.rest[places]? = some c) :
    (Action.access (cursor.current + places)).Sound source := by
  obtain ⟨room, _⟩ := List.getElem?_eq_some_iff.mp there
  have more := inside.length_rest
  show cursor.current + places < source.length
  omega

theorem safe_advance (inside : cursor.Inside source) (ahead : cursor.rest = c :: rest) :
    Safe source (advance cursor) (c, cursor.next) 0 := by
  have there : cursor.rest[0]? = some c := by rw [ahead]; rfl
  rw [advance_of_rest ahead]
  refine ⟨rfl, ?_, rfl, rfl⟩
  intro action member
  rcases List.mem_pair.mp member with rfl | rfl
  · exact Cursor.atEnd_of_rest ahead
  · exact access_sound inside there

theorem safe_accept (inside : cursor.Inside source) (expected : List Char) :
    Safe source (accept expected cursor) (cursor.accept expected) 0 := by
  cases ahead : cursor.rest with
  | nil =>
    rw [accept_of_end ahead]
    exact .pure _
  | cons c rest =>
    have there : cursor.rest[0]? = some c := by rw [ahead]; rfl
    rw [accept_of_rest ahead]
    exact .single (.access _) (access_sound inside there) rfl _

theorem safe_peek (inside : cursor.Inside source) (places : Nat) :
    Safe source (peek places cursor) (cursor.rest[places]?.getD '\x00') 0 := by
  cases there : cursor.rest[places]? with
  | none =>
    rw [peek_of_none there]
    exact .pure _
  | some c =>
    rw [peek_of_some there]
    exact .single (.access _) (access_sound inside there) rfl c

theorem safe_slice {first last : Nat} (ordered : first ≤ last) (room : last ≤ source.length)
    (cursor : Cursor) :
    Safe source (slice first last cursor) (cursor.source.extract first last).toList 0 :=
  .single (.slice first last) ⟨ordered, room⟩ rfl _

theorem safe_lexeme (inside : cursor.Inside source) :
    Safe source (lexeme cursor) cursor.lexeme 0 :=
  safe_slice inside.start_le inside.current_le cursor

theorem safe_convert {text : List Char} (denotes : ∃ fraction, Denotes text fraction) :
    Safe source (record (.convert text)) () 0 :=
  .single (.convert text) denotes rfl ()

/-- A turn that consumes a character. -/
theorem safe_turn (inside : cursor.Inside source) (ahead : cursor.rest = c :: rest) :
    Safe source (record (.turn cursor.current cursor.next.current)) () 1 :=
  .single (.turn cursor.current cursor.next.current)
    ⟨Nat.lt_succ_self _, (inside.next ahead).current_le⟩ rfl ()

/-- A loop that no character past the end keeps going takes one turn for each character that
it consumes. -/
theorem safe_advanceWhile {goesOn : Cursor → Char → Bool} (wanted : Char → Bool)
    (wants : ∀ (cursor : Cursor) c, cursor.rest.head? = some c → goesOn cursor c = wanted c)
    (ends : ∀ cursor : Cursor, cursor.rest = [] → goesOn cursor '\x00' = false)
    (inside : cursor.Inside source) :
    Safe source (advanceWhile goesOn cursor)
      (cursor.skip (cursor.rest.takeWhile wanted).length)
      (cursor.rest.takeWhile wanted).length := by
  generalize ahead : cursor.rest = rest
  induction rest generalizing cursor with
  | nil =>
    have looked := safe_peek inside 0
    rw [ahead] at looked
    rw [advanceWhile]
    refine looked.bind_still ?_
    rw [if_neg (by simp [ends cursor ahead])]
    exact .pure cursor
  | cons c rest ih =>
    have looked := safe_peek inside 0
    have decision : goesOn cursor c = wanted c := wants cursor c (by simp [ahead])
    rw [ahead] at looked
    rw [advanceWhile]
    refine looked.bind_still ?_
    change Safe source (if goesOn cursor c = true then _ else _) _ _
    cases chosen : wanted c with
    | false =>
      rw [decision, chosen, if_neg Bool.false_ne_true,
        List.takeWhile_cons_of_neg (by simp [chosen])]
      exact .pure cursor
    | true =>
      have later := ih (inside.next ahead) (Cursor.rest_next ahead)
      rw [decision, chosen, if_pos rfl, List.takeWhile_cons_of_pos chosen, List.length_cons,
        Nat.add_comm, ← Cursor.skip_skip]
      refine (safe_advance inside ahead).attach.bind_still ?_
      exact (safe_turn inside ahead).bind later

theorem safe_emit (inside : pass.cursor.Inside source) (kind : Kind) (literal : Option Literal) :
    Safe source (emit kind literal pass) (pass.emit kind literal) 0 :=
  (safe_lexeme inside).bind_still (.pure _)

/-- The loop of a string takes one turn for each character of its text. -/
theorem safe_readText (inside : pass.cursor.Inside source) :
    ∃ line, Safe source (readText pass)
      { pass with line, cursor := pass.cursor.skip (pass.cursor.rest.takeWhile (· != '"')).length }
      (pass.cursor.rest.takeWhile (· != '"')).length := by
  -- The line counter changes with the cursor, so the induction is over all passes with
  -- the same rest.
  generalize ahead : pass.cursor.rest = rest
  induction rest generalizing pass with
  | nil =>
    have looked := safe_peek inside 0
    rw [readText]
    refine ⟨pass.line, looked.bind_still ?_⟩
    rw [if_neg (by simp [Cursor.atEnd_iff.mpr ahead])]
    exact .pure pass
  | cons c rest ih =>
    have looked := safe_peek inside 0
    rw [ahead] at looked
    by_cases closing : c = '"'
    · refine ⟨pass.line, ?_⟩
      rw [readText]
      refine looked.bind_still ?_
      rw [if_neg (by simp [closing]), List.takeWhile_cons_of_neg (by simp [closing])]
      exact .pure pass
    · have goesOn : (c != '"' && !pass.cursor.atEnd) = true := by
        simp [closing, Cursor.atEnd_of_rest ahead]
      obtain ⟨line, later⟩ := @ih
        { pass with
          line := if c = '\n' then pass.line + 1 else pass.line
          cursor := pass.cursor.next }
        (inside.next ahead) (Cursor.rest_next ahead)
      refine ⟨line, ?_⟩
      rw [readText]
      refine looked.bind_still ?_
      change Safe source (if (c != '"' && !pass.cursor.atEnd) = true then _ else _) _ _
      rw [if_pos goesOn, List.takeWhile_cons_of_pos (by simp [closing]), List.length_cons,
        Nat.add_comm (List.length _), ← Cursor.skip_skip]
      refine looked.bind_still ?_
      refine (safe_advance inside ahead).attach.bind_still ?_
      exact (safe_turn inside ahead).bind later

theorem length_takeWhile_le (wanted : Char → Bool) (text : List Char) :
    (text.takeWhile wanted).length ≤ text.length :=
  (List.takeWhile_sublist wanted).length_le

theorem safe_readDigits (inside : cursor.Inside source) :
    Safe source (readDigits cursor)
      (cursor.skip (cursor.rest.takeWhile Char.isDigit).length)
      (cursor.rest.takeWhile Char.isDigit).length :=
  safe_advanceWhile Char.isDigit (fun _ _ _ => rfl) (fun _ _ => rfl) inside

/-- What a digit begins denotes a fraction, as far as the number goes on. -/
theorem denotes_number (digit : c.isDigit = true) (rest : List Char) :
    numberTail rest ≤ rest.length ∧
      ∃ fraction, Denotes (c :: rest.take (numberTail rest)) fraction := by
  obtain ⟨body, reading, after, rfl, cut⟩ := exists_cut c rest
  have reach : numberTail (body ++ after) = body.length := by
    rw [← cut.tail_eq, tail, opening_of_isDigit digit]
  obtain rfl : reading = .token .number (some (.number (.ofDecimal (c :: body)))) := by
    rw [← cut.read_eq, read_of_digit digit]
  have lexeme := cut_lexeme cut fun _ => Reading.noConfusion
  rw [reach, List.take_left, List.length_append]
  exact ⟨Nat.le_add_right _ _, lexeme.number.1⟩

/-- The loops of a decimal take no more turns than they consume characters. -/
theorem exists_readDecimal (inside : cursor.Inside source) :
    ∃ value turns, Safe source (readDecimal cursor) value turns ∧
      cursor.current + turns ≤ value.current := by
  have digits := safe_readDigits inside
  have room := length_takeWhile_le Char.isDigit cursor.rest
  rw [readDecimal]
  generalize (cursor.rest.takeWhile Char.isDigit).length = whole at digits room
  have inside' := inside.skip room
  have point := safe_peek inside' 0
  have behind := safe_peek inside' 1
  cases isPoint : (cursor.skip whole).rest[0]?.getD '\x00' == '.' with
  | false =>
    refine ⟨cursor.skip whole, whole, digits.bind_last (point.bind_last ?_), Nat.le_refl _⟩
    rw [isPoint]
    exact .pure _
  | true =>
    cases isDigit : ((cursor.skip whole).rest[1]?.getD '\x00').isDigit with
    | false =>
      refine ⟨cursor.skip whole, whole, digits.bind_last (point.bind_last ?_), Nat.le_refl _⟩
      rw [if_pos isPoint]
      refine behind.bind_last ?_
      rw [isDigit]
      exact .pure _
    | true =>
      -- NUL is no point, so what was seen is a character that can be consumed.
      obtain ⟨c, places, ahead⟩ : ∃ c places, (cursor.skip whole).rest = c :: places := by
        refine List.exists_cons_of_ne_nil fun ended => ?_
        rw [ended] at isPoint
        contradiction
      have more := safe_readDigits (inside'.next ahead)
      generalize ((cursor.skip whole).next.rest.takeWhile Char.isDigit).length = behindPoint
        at more
      refine ⟨(cursor.skip whole).next.skip behindPoint, whole + behindPoint,
        digits.bind (point.bind_still ?_), ?_⟩
      · rw [if_pos isPoint]
        refine behind.bind_still ?_
        rw [if_pos isDigit]
        exact (safe_advance inside' ahead).bind_still more
      · simp only [Cursor.skip, Cursor.next]
        omega

theorem safe_readDecimal (inside : cursor.Inside source) :
    ∃ turns ≤ numberTail cursor.rest,
      Safe source (readDecimal cursor) (cursor.skip (numberTail cursor.rest)) turns := by
  obtain ⟨value, turns, safe, bound⟩ := exists_readDecimal inside
  have came := safe.outcome
  rw [outcome_readDecimal, Pass.readDecimal_eq, Except.ok.injEq] at came
  subst came
  exact ⟨turns, Nat.le_of_add_le_add_left bound, safe⟩

/-! ### What a character begins -/

/-- A pass that has consumed the first character of a lexeme. -/
structure Begun (source : List Char) (c : Char) (pass : Pass) : Prop where
  inside : pass.cursor.Inside source
  lexeme_eq : pass.cursor.lexeme = [c]

theorem completes_emit (inside : pass.cursor.Inside source) (kind : Kind)
    (literal : Option Literal) : Completes source pass (emit kind literal pass) :=
  ⟨_, 0, safe_emit inside kind literal, Nat.le_refl _⟩

theorem completes_readSlash (inside : pass.cursor.Inside source) :
    Completes source pass (readSlash pass) := by
  have accepted := safe_accept inside ['/']
  rw [readSlash]
  rcases Cursor.accept_cases ['/'] pass.cursor with ⟨c, rest, ahead, _, matched⟩ | ⟨_, unmatched⟩
  · rw [matched] at accepted
    have comment := safe_advanceWhile (· != '\n') Pass.inComment_of_head
      Pass.inComment_of_end (inside.next ahead)
    refine ⟨_, _, accepted.bind_still (comment.bind_last (.pure _)), ?_⟩
    simp only [Cursor.skip, Cursor.next]
    omega
  · rw [unmatched] at accepted
    exact accepted.completes (safe_emit inside .slash none) (Nat.le_refl _)

theorem Begun.opened (begun : Begun source c pass) : pass.cursor.start < pass.cursor.current := by
  have length := congrArg List.length (begun.inside.lexeme_eq.symm.trans begun.lexeme_eq)
  rw [List.length_drop, List.length_take, Nat.min_eq_left begun.inside.current_le,
    List.length_singleton] at length
  omega

theorem completes_readString (begun : Begun source c pass) :
    Completes source pass (readString pass) := by
  obtain ⟨line, text⟩ := safe_readText begun.inside
  have room := length_takeWhile_le (· != '"') pass.cursor.rest
  generalize (pass.cursor.rest.takeWhile (· != '"')).length = count at text room
  have inside := begun.inside.skip room
  rw [readString]
  cases ahead : (pass.cursor.skip count).rest with
  | nil =>
    apply text.completes
    · rw [if_pos (Cursor.atEnd_iff.mpr ahead)]
      exact .pure _
    · exact Nat.le_refl _
  | cons quote after =>
    have closed := inside.next ahead
    have opened := begun.opened
    have room := closed.current_le
    have place : (pass.cursor.skip count).next.current = pass.cursor.current + count + 1 := rfl
    apply text.completes
    · rw [if_neg (by rw [Cursor.atEnd_of_rest ahead]; exact Bool.false_ne_true)]
      apply (safe_advance inside ahead).bind_last
      have quoted := @safe_slice source (pass.cursor.start + 1)
        ((pass.cursor.skip count).next.current - 1) (by omega) (by omega)
      exact (quoted _).bind_last (safe_emit closed _ _)
    · exact Nat.le_succ _

/-- Only what denotes a fraction is converted. -/
theorem completes_readNumber (begun : Begun source c pass) (digit : c.isDigit = true) :
    Completes source pass (readNumber pass) := by
  obtain ⟨room, denotes⟩ := denotes_number digit pass.cursor.rest
  obtain ⟨turns, bound, decimal⟩ := safe_readDecimal begun.inside
  have lexeme := begun.inside.lexeme_skip room
  rw [begun.lexeme_eq, List.singleton_append] at lexeme
  rw [← lexeme] at denotes
  have inside := begun.inside.skip room
  rw [readNumber]
  apply decimal.completes
  · apply (safe_lexeme inside).bind_still
    apply (safe_convert denotes).bind_still
    exact safe_emit inside _ _
  · exact Nat.add_le_add_left bound _

theorem completes_readName (inside : pass.cursor.Inside source) :
    Completes source pass (readName pass) := by
  have outside : isNamePart '\x00' = false := by decide
  have name := @safe_advanceWhile source pass.cursor (fun _ c => isNamePart c) isNamePart
    (fun _ _ _ => rfl) (fun _ _ => outside) inside
  have inside := inside.skip (length_takeWhile_le isNamePart pass.cursor.rest)
  rw [readName]
  apply name.completes
  · exact (safe_lexeme inside).bind_still (safe_emit inside _ _)
  · exact Nat.le_refl _

/-- A character is handled once, as what it begins, and so are the characters behind it. -/
theorem exists_handling (begun : Begun source c pass) :
    ∃ work, dispatch c pass = handling c (opening c) work ∧ Completes source pass work := by
  have inside := begun.inside
  have begins := opening_fits c
  rw [dispatch]
  cases part : opening c with
  | mark kind => exact ⟨_, rfl, completes_emit inside kind none⟩
  | extensibleMark bare extended =>
    have accepted := safe_accept inside ['=']
    refine ⟨_, rfl, ?_⟩
    rcases Cursor.accept_cases ['='] pass.cursor with ⟨d, rest, ahead, _, matched⟩ |
        ⟨_, unmatched⟩
    · rw [matched] at accepted
      exact accepted.completes (safe_emit (inside.next ahead) extended none) (Nat.le_succ _)
    · rw [unmatched] at accepted
      exact accepted.completes (safe_emit inside bare none) (Nat.le_refl _)
  | slash => exact ⟨_, rfl, completes_readSlash inside⟩
  | padding => exact ⟨_, rfl, _, 0, .pure pass, Nat.le_refl _⟩
  | lineEnd => exact ⟨_, rfl, _, 0, .pure _, Nat.le_refl pass.cursor.current⟩
  | string => exact ⟨_, rfl, completes_readString begun⟩
  | number =>
    rw [part] at begins
    exact ⟨_, rfl, completes_readNumber begun begins⟩
  | name => exact ⟨_, rfl, completes_readName inside⟩
  | nothing => exact ⟨_, rfl, _, 0, .pure _, Nat.le_refl pass.cursor.current⟩

/-- A round takes the next character and handles it, and all else it does is safe. -/
theorem exists_round (inside : pass.cursor.markStart.Inside source)
    (ahead : pass.cursor.rest = c :: rest) :
    ∃ work, (round pass).outcome = work.outcome ∧
      (round pass).actions =
        (advance pass.cursor.markStart).actions ++ .handle c (opening c) :: work.actions ∧
      Completes source { pass with cursor := pass.cursor.markStart.next } work := by
  have first := safe_advance inside ahead
  have unread : pass.cursor.markStart.lexeme = [] := inside.lexeme_markStart
  have begun : Begun source c { pass with cursor := pass.cursor.markStart.next } :=
    ⟨inside.next ahead, by rw [inside.lexeme_next ahead, unread, List.nil_append]⟩
  obtain ⟨work, handles, completes⟩ := exists_handling begun
  refine ⟨work, ?_, ?_, completes⟩
  · rw [round, outcome_bind, first.outcome, ← outcome_handling c (opening c)]
    exact congrArg outcome handles
  · rw [round, actions_bind first.outcome]
    exact congrArg (_ ++ actions ·) handles

end Traced

/-! ### Every round -/

/-- A round that brings the cursor on and does nothing unsound. The character it begins with
is the only one that is handled, and its loops take fewer turns than it consumes characters. -/
structure SafeRound (source : List Char) (before after : Pass) : Prop where
  outcome_eq : before.round = .ok after
  traced : (Traced.round before).outcome = .ok after
  sound : ∀ action ∈ (Traced.round before).actions, action.Sound source
  handled : ∃ c, source[before.cursor.current]? = some c ∧
    (Traced.round before).actions.filterMap Action.handled? = [(c, opening c)]
  turns_lt : before.cursor.current + (Traced.round before).actions.countP Action.isTurn <
    after.cursor.current
  current_le : after.cursor.current ≤ source.length

namespace Pass

variable {before after : Pass}

theorem Within.safeRound (within : Within source before) (taken : before.round = .ok after) :
    SafeRound source before after := by
  obtain ⟨c, body, reading, behind, ahead, _⟩ := round_inversion taken
  have inside : before.cursor.markStart.Inside source :=
    ⟨within.source_eq, Nat.le_refl _, within.current_le⟩
  have first := Traced.safe_advance inside ahead
  obtain ⟨work, outcome, actions, finished, turns, safe, bound⟩ :=
    Traced.exists_round inside ahead
  have traced := (Traced.outcome_round before).trans taken
  obtain rfl : finished = after := by
    rw [outcome, safe.outcome, Except.ok.injEq] at traced
    exact traced
  refine ⟨taken, traced, ?_, ⟨c, ?_, ?_⟩, ?_, (within.round taken).current_le⟩
  · rw [actions]
    intro action member
    rcases List.mem_append.mp member with opens | member
    · exact first.sound action opens
    · rcases List.mem_cons.mp member with rfl | later
      · exact fun other => Opening.claims_iff
      · exact safe.sound action later
  · rw [← List.head?_drop, ← within.rest_eq, ahead, List.head?_cons]
  · rw [actions, List.filterMap_append, first.unhandled, List.filterMap_cons, safe.unhandled]
    rfl
  · have counted : (Traced.round before).actions.countP Action.isTurn = turns := by
      rw [actions, List.countP_append, first.turns_eq, List.countP_cons, safe.turns_eq]
      exact Nat.zero_add turns
    rw [counted]
    exact Nat.lt_of_lt_of_le (Nat.add_lt_add_right (Nat.lt_succ_self _) turns) bound

/-- All loops of a pass together take no more turns than the source has characters. The loop
that goes from round to round is one of them, and its last look finds nothing left. -/
theorem Within.turns_le (within : Within source before) :
    before.cursor.current + before.heads.length +
        (before.gather fun pass _ => (Traced.round pass).actions).countP Action.isTurn ≤
      source.length + 1 := by
  induction before using round_induction with
  | ended pass ended =>
    rw [heads_of_end ended, gather_of_end ended]
    exact Nat.succ_le_succ within.current_le
  | rounds pass next taken ih =>
    have later := ih (within.round taken)
    have here := (within.safeRound taken).turns_lt
    rw [heads_of_round taken, gather_of_round taken, List.length_cons, List.countP_append]
    omega

end Pass

end ScriptLexer
