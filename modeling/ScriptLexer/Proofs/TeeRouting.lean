import ScriptLexer.Proofs.CollectorHistories
import ScriptLexer.Proofs.Deliveries

/-! Where a tee sends what is reported to it. However tees are nested, and however often a
destination stands among their parts, a report does what reports to the leaves do from left
to right. What happens at one destination depends on nothing that happens at another: a
collector that is full holds nothing up, and what is no leaf stays as it was. -/
namespace ScriptLexer

namespace Reporter

/-- Reports diagnostics one after another. -/
def reportEach (reporter : Reporter) (diagnostics : List Diagnostic) (sinks : Sinks) : Sinks :=
  diagnostics.foldl (fun sinks diagnostic => reporter.report diagnostic sinks) sinks

/-- Reports each diagnostic to every leaf, from left to right, before the next one. -/
def reportToLeaves (reporter : Reporter) (diagnostics : List Diagnostic) (sinks : Sinks) : Sinks :=
  diagnostics.foldl
    (fun sinks diagnostic =>
      reporter.destinations.foldl
        (fun sinks leaf => leaf.reporter.report diagnostic sinks) sinks)
    sinks

theorem reportEach_eq_reportToLeaves (reporter : Reporter) (diagnostics : List Diagnostic)
    (sinks : Sinks) :
    reporter.reportEach diagnostics sinks = reporter.reportToLeaves diagnostics sinks := by
  unfold reportEach reportToLeaves
  congr 1
  funext sinks diagnostic
  exact report_eq_foldl diagnostic reporter sinks

/-- Nothing arrives at a destination that is no leaf. -/
theorem arrivals_of_not_mem {reporter : Reporter} {leaf : Destination}
    (outside : leaf ∉ reporter.destinations) (diagnostics : List Diagnostic) :
    reporter.arrivals diagnostics leaf = [] := by
  rw [arrivals, List.count_eq_zero_of_not_mem outside]
  simp

end Reporter

/-- A destination holds the same in two states of the sinks. -/
def SameAt (first second : Sinks) : Destination → Prop
  | .collector index => first.collectors[index]? = second.collectors[index]?
  | .stream index => first.streams[index]? = second.streams[index]?
  | .console => first.shown = second.shown

namespace Delivered

variable {arrivals : Destination → List Diagnostic} {before after before' after' : Sinks}

/-- Where nothing arrives, nothing changes. -/
theorem same_of_nil (delivered : Delivered arrivals before after) {leaf : Destination}
    (nothing : arrivals leaf = []) : SameAt after before leaf := by
  cases leaf with
  | collector index => simp [SameAt, delivered.collectors, nothing]
  | stream index => simp [SameAt, delivered.streams, nothing]
  | console => simp [SameAt, delivered.console, nothing]

/-- What becomes of a destination is decided by what arrives there and by what it held. -/
theorem same (delivered : Delivered arrivals before after)
    (delivered' : Delivered arrivals before' after') {leaf : Destination}
    (same : SameAt before before' leaf) : SameAt after after' leaf := by
  cases leaf with
  | collector index =>
    have held : before.collectors[index]? = before'.collectors[index]? := same
    rw [SameAt, delivered.collectors, delivered'.collectors, held]
  | stream index =>
    have held : before.streams[index]? = before'.streams[index]? := same
    rw [SameAt, delivered.streams, delivered'.streams, held]
  | console =>
    have held : before.shown = before'.shown := same
    rw [SameAt, delivered.console, delivered'.console, held]

/-- What arrives at a collector comes last in its history. -/
theorem holds (delivered : Delivered arrivals before after) {index : Nat} {limit : Option Int}
    {history : List Diagnostic} {collector : Collector}
    (found : before.collectors[index]? = some collector)
    (holds : collector.Holds limit history) :
    ∃ later, after.collectors[index]? = some later ∧
      later.Holds limit (history ++ arrivals (.collector index)) := by
  refine ⟨_, ?_, holds.reports (arrivals (.collector index))⟩
  rw [delivered.collectors, found]
  rfl

end Delivered

namespace Reporter

/-- Whatever is reported to a tee, its leaves receive it one after another from left to right,
each as often as it stands in the tee. Every collector counts all that reaches it and keeps
what its limit allows, every stream is written on, and no leaf is held up by what another one
holds. What is no leaf stays as it was. -/
theorem tees_route_to_leaves (parts : List Reporter) (diagnostics : List Diagnostic)
    (before : Sinks) :
    let tee := Reporter.tee parts
    let after := tee.reportEach diagnostics before
    after = tee.reportToLeaves diagnostics before ∧
      Delivered
        (fun leaf => diagnostics.flatMap fun diagnostic =>
          List.replicate (tee.destinations.count leaf) diagnostic)
        before after ∧
      (∀ index limit history (collector : Collector),
        before.collectors[index]? = some collector → collector.Holds limit history →
        ∃ later : Collector, after.collectors[index]? = some later ∧
          later.Holds limit (history ++ tee.arrivals diagnostics (.collector index))) ∧
      (∀ leaf ∉ tee.destinations, SameAt after before leaf) ∧
      (∀ leaf other, SameAt before other leaf →
        SameAt after (tee.reportEach diagnostics other) leaf) := by
  intro tee after
  have delivered : Delivered (tee.arrivals diagnostics) before after :=
    .reports tee diagnostics before
  refine ⟨reportEach_eq_reportToLeaves tee diagnostics before, delivered, ?_, ?_, ?_⟩
  · intro index limit history collector found holds
    exact delivered.holds found holds
  · intro leaf outside
    exact delivered.same_of_nil (arrivals_of_not_mem outside diagnostics)
  · intro leaf other same
    exact delivered.same (.reports tee diagnostics other) same

/-- A tee that holds a collector with a limit of one twice and the console once, one copy of
the collector inside another tee. The second diagnostic still reaches the console although the
collector was full before it, and the other collector stays as it was. -/
theorem tee_passes_full_collector :
    let tee : Reporter := .tee [.collector 0, .tee [.console, .collector 0]]
    let stray : Diagnostic := .unexpectedCharacter ['@'] 1
    let opened : Diagnostic := .unterminatedString 2
    let before : Sinks := ⟨[.empty (some 1), .empty none], [], #[]⟩
    let after := tee.reportEach [stray, opened] before
    (∃ later : Collector, after.collectors[0]? = some later ∧
      later.Holds (some 1) [stray, stray, opened, opened]) ∧
    SameAt after before (.collector 1) ∧
    after.shown = "[line 1] Error: Unexpected character\n".toList ++
      "[line 2] Error: Unterminated string\n".toList := by
  intro tee stray opened before after
  obtain ⟨_, delivered, held, outside, _⟩ :=
    tees_route_to_leaves [.collector 0, .tee [.console, .collector 0]] [stray, opened] before
  refine ⟨?_, outside (.collector 1) (by decide), ?_⟩
  · exact held 0 (some 1) [] _ rfl (Collector.holds_empty (some 1))
  · exact delivered.console.trans (by decide +kernel)

end Reporter

end ScriptLexer
