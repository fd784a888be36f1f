import Mathlib.Data.List.DropRight
import Mathlib.Data.List.Induction
import ScriptLexer.Proofs.LineEnds
import ScriptLexer.Proofs.Printable
import ScriptLexer.Reporting.Session

/-! The history of a collector. Whatever was reported to it, and however often it was cleared
or asked for an error, a collector tells nothing but the diagnostics since it was last cleared:
it keeps the first of them, as many as its limit allows, and counts them all. What it keeps
and what it only counts are held apart, and everything it says follows from both. -/
namespace ScriptLexer

open Text

namespace Collector

variable {limit : Option Int} {history : List Diagnostic} {collector : Collector}

/-! ### What is kept of a history -/

/-- The entries of a history that a limit allows for. -/
def kept (limit : Option Int) (history : List Diagnostic) : List Diagnostic :=
  match limit with
  | none => history
  | some limit => history.take limit.toNat

/-- The collector has received this history since it was empty. -/
structure Holds (limit : Option Int) (history : List Diagnostic) (collector : Collector) :
    Prop where
  bounded : collector.limit = limit
  stored : collector.stored.toList = kept limit history
  counted : collector.count = history.length

theorem holds_empty (limit : Option Int) : Holds limit [] (empty limit) where
  bounded := rfl
  stored := by cases limit <;> simp [empty, kept]
  counted := rfl

namespace Holds

/-- A full collector keeps nothing more. -/
theorem kept_of_full (holds : Holds limit history collector) (full : collector.isFull = true)
    (diagnostic : Diagnostic) : kept limit (history ++ [diagnostic]) = kept limit history := by
  have stored := congrArg List.length holds.stored
  cases limit with
  | none =>
    rw [isFull, holds.bounded] at full
    cases full
  | some limit =>
    have reached : limit ≤ collector.stored.size := by
      rw [isFull, holds.bounded] at full
      exact of_decide_eq_true full
    simp only [kept, Array.length_toList, List.length_take] at stored
    exact List.take_append_of_le_length (by omega)

/-- Below the limit, a whole history is kept. -/
theorem kept_of_free (holds : Holds limit history collector) (free : collector.isFull = false)
    (diagnostic : Diagnostic) :
    kept limit (history ++ [diagnostic]) = kept limit history ++ [diagnostic] := by
  have stored := congrArg List.length holds.stored
  cases limit with
  | none => rfl
  | some limit =>
    have below : collector.stored.size < limit := by
      rw [isFull, holds.bounded] at free
      exact Int.not_le.mp (of_decide_eq_false free)
    simp only [kept, Array.length_toList, List.length_take] at stored ⊢
    have room : history.length + 1 ≤ limit.toNat := by omega
    rw [List.take_of_length_le (Nat.le_of_succ_le room), List.take_of_length_le]
    rwa [List.length_append]

/-- What is reported comes last in the history. -/
theorem report (holds : Holds limit history collector) (diagnostic : Diagnostic) :
    Holds limit (history ++ [diagnostic]) (collector.report diagnostic) := by
  have counted : collector.stored.size + collector.dropped = history.length := holds.counted
  unfold Collector.report
  cases full : collector.isFull with
  | true =>
    refine ⟨holds.bounded, holds.stored.trans (holds.kept_of_full full diagnostic).symm, ?_⟩
    simp only [count, ↓reduceIte, List.length_append, List.length_singleton]
    omega
  | false =>
    refine ⟨holds.bounded, ?_, ?_⟩
    · simpa [holds.stored] using (holds.kept_of_free full diagnostic).symm
    · simp only [count, Bool.false_eq_true, ↓reduceIte, Array.size_push, List.length_append,
        List.length_singleton]
      omega

/-- Diagnostics that are reported one after another extend the history. -/
theorem reports (holds : Holds limit history collector) (diagnostics : List Diagnostic) :
    Holds limit (history ++ diagnostics) (diagnostics.foldl Collector.report collector) := by
  induction diagnostics generalizing history collector with
  | nil => rwa [List.append_nil]
  | cons diagnostic diagnostics ih =>
    rw [List.append_cons]
    exact ih (holds.report diagnostic)

/-- Nothing is left of a history that is cleared. -/
theorem clear (holds : Holds limit history collector) : Holds limit [] collector.clear := by
  rw [Collector.clear, holds.bounded]
  exact holds_empty limit

end Holds

/-! ### What is told of a history -/

/-- The line that counts a whole history. -/
def summary (count : Nat) : List Char :=
  if count = 1 then "1 error".toList else decimal count ++ " errors".toList

/-- The lines of a report: the entries kept, how many others there are, if any, and how many
entries in all. -/
def reportLines (limit : Option Int) (history : List Diagnostic) : List (List Char) :=
  let hidden := history.length - (kept limit history).length
  (kept limit history).map Diagnostic.print ++
    (if 0 < hidden then ["... ".toList ++ decimal hidden ++ " more not shown".toList] else []) ++
    [summary history.length]

theorem summary_ne_nil (count : Nat) : summary count ≠ [] := by
  unfold summary
  split <;> simp

theorem countLine_eq_summary (count : Nat) : countLine count = summary count := by
  unfold countLine summary
  split
  · rename_i one
    rw [one]
    rfl
  · rfl

theorem printable_summary (count : Nat) : Printable (summary count) := by
  have one : Printable "1 error".toList := printable_of_all (by decide)
  have several : Printable " errors".toList := printable_of_all (by decide)
  unfold summary
  split
  · exact one
  · exact printable_append.mpr ⟨printable_decimal count, several⟩

/-- Everything a collector tells. -/
structure Tells (limit : Option Int) (history : List Diagnostic) (collector : Collector) :
    Prop where
  stored : collector.stored.toList = kept limit history
  count : collector.count = history.length
  hasErrors : collector.hasErrors = true ↔ history ≠ []
  reportText : collector.reportText = joinLines (reportLines limit history)
  /-- The last line of the report counts the whole history, whatever was kept. -/
  lastLine : (splitLines collector.reportText).getLast? = some (summary history.length)
  failure? : collector.failure? =
    if history = [] then none
    else some (.collected ((kept limit history).map .located) collector.reportText)

namespace Holds

theorem hasErrors_iff (holds : Holds limit history collector) :
    collector.hasErrors = true ↔ history ≠ [] := by
  rw [hasErrors, decide_eq_true_iff, holds.counted, List.length_pos_iff]

/-- The report is made of the history, whatever is held apart. -/
theorem reportText_eq (holds : Holds limit history collector) :
    collector.reportText = joinLines (reportLines limit history) := by
  have counted : collector.stored.size + collector.dropped = history.length := holds.counted
  have size := congrArg List.length holds.stored
  have hidden : history.length - (kept limit history).length = collector.dropped := by
    rw [Array.length_toList] at size
    omega
  have dropped (count : Nat) : droppedLines count =
      if 0 < count then ["... ".toList ++ decimal count ++ " more not shown".toList] else [] := by
    cases count <;> rfl
  rw [Collector.reportText, reportLines, hidden, holds.stored, holds.counted,
    countLine_eq_summary, dropped]

theorem lastLine_eq (holds : Holds limit history collector) :
    (splitLines collector.reportText).getLast? = some (summary history.length) := by
  have plain : '\n' ∉ summary history.length := (printable_summary _).no_lineEnd
  obtain ⟨earlier, shape⟩ := splitLines_joinLines plain (summary_ne_nil _) _
  rw [holds.reportText_eq, reportLines, shape, List.getLast?_concat]

theorem failure?_eq (holds : Holds limit history collector) :
    collector.failure? =
      if history = [] then none
      else some (.collected ((kept limit history).map .located) collector.reportText) := by
  unfold Collector.failure?
  by_cases nothing : history = []
  · rw [if_pos nothing, if_neg (mt holds.hasErrors_iff.mp (not_not_intro nothing))]
  · rw [if_neg nothing, if_pos (holds.hasErrors_iff.mpr nothing), holds.stored]

theorem tells (holds : Holds limit history collector) : Tells limit history collector :=
  ⟨holds.stored, holds.counted, holds.hasErrors_iff, holds.reportText_eq, holds.lastLine_eq,
    holds.failure?_eq⟩

end Holds

/-! ### Requests -/

/-- What is asked of a collector. -/
inductive Request
  | report (diagnostic : Diagnostic)
  | clear
  /-- Asks for the error made of everything received. -/
  | failure
deriving DecidableEq

namespace Request

def reported? : Request → Option Diagnostic
  | report diagnostic => some diagnostic
  | clear | failure => none

/-- The step of a session in which a request is made of the collector of a name. -/
def step (name : List Char) : Request → Session.Step
  | report diagnostic => .report name diagnostic
  | clear => .clear name
  | failure => .failure name

end Request

/-- The diagnostics reported since the collector was last cleared. -/
def sinceCleared (requests : List Request) : List Diagnostic :=
  (requests.rtakeWhile fun request => request ≠ .clear).filterMap Request.reported?

/-- What one more request makes of a history. -/
theorem sinceCleared_concat (requests : List Request) (request : Request) :
    sinceCleared (requests ++ [request]) =
      match request with
      | .report diagnostic => sinceCleared requests ++ [diagnostic]
      | .clear => []
      | .failure => sinceCleared requests := by
  cases request <;> simp [sinceCleared, Request.reported?]

end Collector

namespace Session

open Collector

variable {session : Session} {name : List Char} {limit : Option Int}
  {history : List Diagnostic} {index : Nat} {collector : Collector}

theorem collector_eq_ok_iff :
    session.collector name = .ok (index, collector) ↔
      session.reporters.find? name = some (.collector index) ∧
        session.sinks.collectors[index]? = some collector := by
  unfold Session.collector
  constructor
  · intro found
    split at found
    · rename_i other named
      split at found
      · rename_i stored
        cases found
        exact ⟨named, stored⟩
      · cases found
    · cases found
  · rintro ⟨named, stored⟩
    simp [named, stored]

/-- A request is made of the collector of a name. -/
def ask (session : Session) (name : List Char) (request : Request) :
    Except (List Char) Session := do
  let (_, after) ← session.perform (request.step name)
  return after

/-- The session once a new collector has got a name and these requests were made of it. -/
def collected (session : Session) (name : List Char) (limit : Option Int)
    (requests : List Request) : Except (List Char) Session := do
  let (_, named) ← session.perform (.newCollector name limit)
  requests.foldlM (fun session request => session.ask name request) named

/-- The collector of a name has received a history. -/
def Knows (session : Session) (name : List Char) (limit : Option Int)
    (history : List Diagnostic) : Prop :=
  ∃ index collector, session.collector name = .ok (index, collector) ∧
    Holds limit history collector

theorem perform_report (found : session.collector name = .ok (index, collector))
    (diagnostic : Diagnostic) :
    session.perform (.report name diagnostic) = .ok (.nothing,
      { session with sinks := (Reporter.collector index).report diagnostic session.sinks }) := by
  obtain ⟨named, _⟩ := collector_eq_ok_iff.mp found
  simp [perform, Session.reporter, named, bind, Except.bind, pure, Except.pure]

theorem perform_clear (found : session.collector name = .ok (index, collector)) :
    session.perform (.clear name) = .ok (.nothing,
      { session with sinks := { session.sinks with
          collectors := session.sinks.collectors.modify index (·.clear) } }) := by
  rw [perform, found]
  rfl

theorem perform_failure (found : session.collector name = .ok (index, collector)) :
    session.perform (.failure name) =
      match collector.failure? with
      | none => .ok (.nothing, session)
      | some error => .ok (.failed error, session) := by
  cases failure : collector.failure? <;>
    simp [perform, found, failure, bind, Except.bind, pure, Except.pure]

/-- After one more request, the collector knows one more entry of its history, or none. -/
theorem Knows.ask {requests : List Request}
    (knows : session.Knows name limit (sinceCleared requests)) (request : Request) :
    ∃ after, session.ask name request = .ok after ∧
      after.Knows name limit (sinceCleared (requests ++ [request])) := by
  obtain ⟨index, collector, found, holds⟩ := knows
  obtain ⟨named, stored⟩ := collector_eq_ok_iff.mp found
  rw [sinceCleared_concat]
  cases request with
  | report diagnostic =>
    refine ⟨_, by rw [Session.ask, Request.step, perform_report found]; rfl, index,
      collector.report diagnostic, ?_, holds.report diagnostic⟩
    rw [collector_eq_ok_iff]
    exact ⟨named, by simp [Reporter.report, Sinks.write, stored]⟩
  | clear =>
    refine ⟨_, by rw [Session.ask, Request.step, perform_clear found]; rfl, index,
      collector.clear, ?_, holds.clear⟩
    rw [collector_eq_ok_iff]
    exact ⟨named, by simp [stored]⟩
  | failure =>
    refine ⟨session, ?_, index, collector, found, holds⟩
    rw [Session.ask, Request.step, perform_failure found]
    cases collector.failure? <;> rfl

end Session

end ScriptLexer
