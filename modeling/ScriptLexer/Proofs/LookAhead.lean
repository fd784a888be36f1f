import ScriptLexer.Proofs.Lines

/-! How far a scan looks ahead. What a round takes and finds is settled by the span and
the two characters behind it, or by the end of the source if it comes before them. So
two sources that begin alike are scanned alike, up to two characters before the place
where they part. -/
namespace ScriptLexer

open Source

/-- A span of a source by its place, and what a scan finds in it. -/
structure Segment where
  start : Nat
  stop : Nat
  findings : List Finding
deriving DecidableEq

namespace Source

variable {c : Char} {body after later span : List Char} {reading : Reading} {count : Nat}

/-- Nothing that the two characters behind a span leave open can lengthen it. -/
theorem yields_of_take (same : after.take 2 = later.take 2) : Yields after later := by
  match after, later, same with
  | [], [], _ => exact ⟨by simp, by simp, by simp⟩
  | [d], [d'], same =>
    obtain rfl : d = d' := by simpa using same
    exact ⟨by simp, by simp, by simp⟩
  | d :: e :: after, d' :: e' :: later, same =>
    obtain ⟨rfl, rfl⟩ : d = d' ∧ e = e' := by simpa using same
    refine ⟨by simp, ?_, by simp⟩
    rintro _ _ ⟨⟩ _
    exact ⟨after, rfl⟩

/-- Two characters behind a span settle it. -/
theorem Cut.ahead (cut : Cut c body reading after) (same : after.take 2 = later.take 2) :
    Cut c body reading later := by
  by_cases closed : reading = .fault .unterminatedString
  · subst closed
    cases cut with
    | openString inside =>
      obtain rfl : later = [] := by simpa using same.symm
      exact .openString inside
  · exact cut.yield (yields_of_take same) closed

/-- Of two texts that begin alike, both begin with whatever lies in the common part. -/
theorem exists_append_of_take {other : List Char}
    (same : (span ++ after).take count = other.take count) (within : span.length ≤ count) :
    ∃ after', other = span ++ after' ∧
      after.take (count - span.length) = after'.take (count - span.length) := by
  have begins : other.take span.length = span := by
    have shorter := congrArg (List.take span.length) same
    simpa [List.take_take, Nat.min_eq_left within] using shorter.symm
  refine ⟨other.drop span.length, ?_, ?_⟩
  · calc
      other = other.take span.length ++ other.drop span.length :=
          (List.take_append_drop span.length other).symm
      _ = span ++ other.drop span.length := by rw [begins]
  · calc
      after.take (count - span.length) =
          ((span ++ after).take count).drop span.length := by rw [List.drop_take, List.drop_left]
      _ = (other.take count).drop span.length := by rw [same]
      _ = (other.drop span.length).take (count - span.length) := List.drop_take

end Source

namespace Pass

variable {pass other next : Pass} {count : Nat}

/-- The span of a round and what the round finds in it. -/
def segment (before after : Pass) : Segment :=
  ⟨after.cursor.start, after.cursor.current, findings before after⟩

/-- The segments of what is left of a source, in the order of the rounds that take them. -/
def segments (pass : Pass) : List Segment :=
  pass.gather fun before after => [segment before after]

theorem segments_of_end (ended : pass.cursor.rest = []) : pass.segments = [] :=
  gather_of_end ended

theorem segments_of_round (taken : pass.round = .ok next) :
    pass.segments = segment pass next :: next.segments :=
  gather_of_round taken

/-- Two passes at the same place and on the same line of two sources, which go on alike up
to the place `count`. -/
structure Abreast (count : Nat) (pass other : Pass) : Prop where
  current_eq : other.cursor.current = pass.cursor.current
  line_eq : other.line = pass.line
  agree : pass.cursor.rest.take (count - pass.cursor.current) =
    other.cursor.rest.take (count - pass.cursor.current)

/-- A round that ends two characters before the sources part is a round of both passes. -/
theorem Abreast.round (abreast : Abreast count pass other) (taken : pass.round = .ok next)
    (settled : next.cursor.current + 2 ≤ count) :
    ∃ next', other.round = .ok next' ∧ segment other next' = segment pass next ∧
      Abreast count next next' := by
  obtain ⟨c, body, reading, after, ahead, cut, rfl⟩ := round_inversion taken
  rw [current_absorb] at settled
  obtain ⟨after', ahead', alike⟩ : ∃ after', other.cursor.rest = (c :: body) ++ after' ∧
      after.take (count - pass.cursor.current - (c :: body).length) =
        after'.take (count - pass.cursor.current - (c :: body).length) := by
    apply exists_append_of_take
    · rw [← abreast.agree, ahead]
      rfl
    · omega
  have cut' : Cut c body reading after' := by
    have two := congrArg (List.take 2) alike
    rw [List.take_take, List.take_take, Nat.min_eq_left (by omega)] at two
    exact cut.ahead two
  refine ⟨_, round_eq cut' ahead', ?_, ?_, ?_, ?_⟩
  · simp [segment, findings_absorb, abreast.current_eq, abreast.line_eq]
  · simp [abreast.current_eq]
  · simp [abreast.line_eq]
  · rw [rest_absorb ahead, rest_absorb ahead', current_absorb, Nat.sub_add_eq]
    exact alike

/-- No segment ends before the place where its pass stands. -/
theorem current_le_stop (pass : Pass) :
    ∀ found ∈ pass.segments, pass.cursor.current ≤ found.stop := by
  induction pass using round_induction with
  | ended pass ended => simp [segments_of_end ended]
  | rounds pass next taken ih =>
    have onward : pass.cursor.current ≤ next.cursor.current := by
      obtain ⟨c, body, reading, after, _, _, rfl⟩ := round_inversion taken
      simp
    rw [segments_of_round taken]
    intro found member
    rcases List.mem_cons.mp member with rfl | later
    · exact onward
    · exact Nat.le_trans onward (ih found later)

/-- Passes that are abreast stay so for as long as a segment of the one can be settled. -/
theorem Abreast.mem_segments (abreast : Abreast count pass other) :
    ∀ found ∈ pass.segments, found.stop + 2 ≤ count → found ∈ other.segments := by
  induction pass using round_induction generalizing other with
  | ended pass ended => simp [segments_of_end ended]
  | rounds pass next taken ih =>
    rw [segments_of_round taken]
    intro found member settled
    have reached : next.cursor.current ≤ found.stop := by
      rcases List.mem_cons.mp member with rfl | later
      · exact Nat.le_refl _
      · exact current_le_stop next found later
    obtain ⟨next', taken', same, abreast'⟩ := abreast.round taken (by omega)
    rw [segments_of_round taken', same]
    rcases List.mem_cons.mp member with rfl | later
    · exact List.mem_cons_self
    · exact List.mem_cons_of_mem _ (ih abreast' found later settled)

/-- If two sources agree in their first `count` characters, then every span of the one
that ends two characters before that or earlier is a span of the other at the same
place, with the same token or diagnostic found in it. -/
theorem segments_settled {source other : List Char}
    (agree : source.take count = other.take count) :
    ∀ found ∈ (start source).segments, found.stop + 2 ≤ count →
      found ∈ (start other).segments := by
  have abreast : Abreast count (start source) (start other) := ⟨rfl, rfl, agree⟩
  exact abreast.mem_segments

/-- One character less would not do: what stands behind a point decides whether the number
before it ends there. -/
example :
    let number : Segment :=
      ⟨0, 1, [.token ⟨.number, ['1'], some (.number (.ofDecimal ['1'])), 1⟩]⟩
    "1.x".toList.take 2 = "1.5".toList.take 2 ∧ number.stop + 1 ≤ 2 ∧
      number ∈ (start "1.x".toList).segments ∧ number ∉ (start "1.5".toList).segments := by
  decide +kernel

/-- A number and a point behind it are settled by what comes after the point. -/
theorem number_before_point_settled :
    let source := "x 1.y\"".toList
    let other := "x 1.y2.0".toList
    let number : Segment :=
      ⟨2, 3, [.token ⟨.number, ['1'], some (.number (.ofDecimal ['1'])), 1⟩]⟩
    source.take 5 = other.take 5 ∧ number ∈ (start source).segments ∧ number.stop + 2 ≤ 5 ∧
      number ∈ (start other).segments := by
  intro source other number
  have agree : source.take 5 = other.take 5 := rfl
  have found : number ∈ (start source).segments := by decide +kernel
  exact ⟨agree, found, by decide, segments_settled agree number found (by decide)⟩

end Pass

end ScriptLexer
