import Mathlib.Data.List.Induction
import ScriptLexer.Proofs.Deliveries
import ScriptLexer.Proofs.Rounds
import ScriptLexer.Reporting.Session

/-! Calls of the scanners of a session, in any order. The first call of a scanner scans its
source as if there were nothing else, and sends what is wrong with it to its reporter; any
later call is refused and changes nothing. So what a scanner holds depends on its own
source only, and what a destination receives on the order of the first calls only. -/
namespace ScriptLexer

open Source

namespace Scanner

variable {scanner : Scanner} {scan : Scan}

/-- The scanner once it has scanned its source. -/
def used (scanner : Scanner) : Scanner :=
  { scanner with scan? := some (Scan.ofSource scanner.source) }

/-- What is wrong with the source of a scanner, in the order of the source. -/
def errors (scanner : Scanner) : List Diagnostic :=
  (Entry.ofSpans 1 (spans scanner.source)).filterMap Entry.diagnostic?

theorem diagnostics_eq_errors (scanner : Scanner) :
    (Scan.ofSource scanner.source).diagnostics = scanner.errors := by
  rw [Scan.ofSource_eq]
  rfl

/-- The scan of a source by a scanner of its own, with a collector of its own. -/
def alone (source : List Char) : Option (List Token × Scanner × Sinks) :=
  (ofSource source (.collector 0)).scanAll? Scan.freshCollector

theorem scanAll?_unused (unused : scanner.scan? = none) (sinks : Sinks) :
    scanner.scanAll? sinks = some ((Scan.ofSource scanner.source).tokens, scanner.used,
      (Scan.ofSource scanner.source).report scanner.reporter sinks) := by
  rw [scanAll?, unused]
  rfl

theorem scanAll?_used (scanned : scanner.scan? = some scan) (sinks : Sinks) :
    scanner.scanAll? sinks = none := by
  rw [scanAll?, scanned]

theorem alone_eq (source : List Char) :
    alone source = some ((Scan.ofSource source).tokens, (ofSource source (.collector 0)).used,
      (Scan.ofSource source).report (.collector 0) Scan.freshCollector) :=
  rfl

end Scanner

namespace Session

variable {session before here : Session} {scanner : Scanner} {name : List Char}
  {calls : List (List Char)}

/-- Calls the scanner of a name. Without one, nothing happens. -/
def call (session : Session) (name : List Char) : Answer × Session :=
  match session.perform (.scanAll name) with
  | .ok result => result
  | .error name => (.unknown name, session)

theorem call_unknown (nothing : session.scanners.find? name = none) :
    session.call name = (.unknown name, session) := by
  simp [call, perform, nothing]

theorem call_used {scan : Scan} (found : session.scanners.find? name = some scanner)
    (scanned : scanner.scan? = some scan) : session.call name = (.alreadyScanned, session) := by
  simp [call, perform, found, scanWith, Scanner.scanAll?_used scanned]

theorem call_unused (found : session.scanners.find? name = some scanner)
    (unused : scanner.scan? = none) :
    session.call name =
      (.tokens (Scan.ofSource scanner.source).tokens,
        { session with
          sinks := (Scan.ofSource scanner.source).report scanner.reporter session.sinks
          scanners := session.scanners.bind name scanner.used }) := by
  simp [call, perform, found, scanWith, Scanner.scanAll?_unused unused]

/-- The session after calls in this order. -/
def afterCalls (session : Session) (calls : List (List Char)) : Session :=
  calls.foldl (fun session name => (session.call name).2) session

/-- No scanner of the session was called before. -/
def Unused (session : Session) : Prop :=
  ∀ name scanner, session.scanners.find? name = some scanner → scanner.scan? = none

theorem unused_of_scanners (unused : ∀ binding ∈ session.scanners, binding.2.scan? = none) :
    session.Unused := by
  intro name scanner found
  obtain ⟨earlier, later, shape, _⟩ := List.lookup_eq_some_iff.mp found
  exact unused (name, scanner) (by simp [shape])

/-- The scanners that are called, in the order of their first calls. -/
def firstCalled (session : Session) (calls : List (List Char)) : List Scanner :=
  calls.eraseDups.filterMap session.scanners.find?

/-- What calls have made of a session: every scanner that was called holds the scan of its
own source and the others are as they were, and the scans were reported in the order of
the first calls. -/
structure Called (calls : List (List Char)) (before after : Session) : Prop where
  scanners : ∀ name, after.scanners.find? name =
    (before.scanners.find? name).map fun scanner =>
      if name ∈ calls then scanner.used else scanner
  reporters : after.reporters = before.reporters
  sinks : after.sinks = (before.firstCalled calls).foldl
    (fun sinks scanner => (Scan.ofSource scanner.source).report scanner.reporter sinks)
    before.sinks

theorem firstCalled_again (again : name ∈ calls) :
    session.firstCalled (calls ++ [name]) = session.firstCalled calls := by
  have same : [name].removeAll calls = [] := by simp [List.removeAll, again]
  rw [firstCalled, List.eraseDups_append, same, List.eraseDups_nil, List.append_nil, firstCalled]

theorem firstCalled_first (first : name ∉ calls) :
    session.firstCalled (calls ++ [name]) =
      session.firstCalled calls ++ (session.scanners.find? name).toList := by
  have new : [name].removeAll calls = [name] := by simp [List.removeAll, first]
  rw [firstCalled, List.eraseDups_append, new, List.filterMap_append, ← firstCalled]
  cases found : session.scanners.find? name <;> simp [List.eraseDups_cons, found]

namespace Called

/-- A call that changes nothing, of a name without a scanner or of a scanner that was
called before. -/
theorem idle (called : Called calls before here)
    (vain : before.scanners.find? name = none ∨ name ∈ calls) :
    Called (calls ++ [name]) before here where
  scanners other := by
    rw [called.scanners]
    cases found : before.scanners.find? other with
    | none => rfl
    | some scanner =>
      have members : other ∈ calls ++ [name] ↔ other ∈ calls := by
        rw [List.mem_append, List.mem_singleton]
        constructor
        · rintro (member | rfl)
          · exact member
          · rw [found] at vain
            exact vain.resolve_left nofun
        · exact .inl
      simp only [Option.map_some, members]
  reporters := called.reporters
  sinks := by
    have same : before.firstCalled (calls ++ [name]) = before.firstCalled calls := by
      by_cases again : name ∈ calls
      · exact firstCalled_again again
      · rw [firstCalled_first again, vain.resolve_right again]
        exact List.append_nil _
    rw [same, called.sinks]

/-- A call of a scanner that was not called before. -/
theorem first (called : Called calls before here)
    (found : before.scanners.find? name = some scanner) (new : name ∉ calls) :
    Called (calls ++ [name]) before
      { here with
        sinks := (Scan.ofSource scanner.source).report scanner.reporter here.sinks
        scanners := here.scanners.bind name scanner.used } where
  scanners other := by
    simp only [Bindings.find?_bind, called.scanners, List.mem_append, List.mem_singleton]
    by_cases same : other = name
    · simp [same, found]
    · simp [same]
  reporters := called.reporters
  sinks := by
    rw [firstCalled_first new, found, Option.toList_some, List.foldl_append, ← called.sinks]
    rfl

/-- A scanner that was not called is as it was. -/
theorem find?_unused (called : Called calls before here)
    (found : before.scanners.find? name = some scanner) (new : name ∉ calls) :
    here.scanners.find? name = some scanner := by
  rw [called.scanners, found, Option.map_some, if_neg new]

/-- A scanner that was called holds the scan of its source. -/
theorem find?_used (called : Called calls before here)
    (found : before.scanners.find? name = some scanner) (again : name ∈ calls) :
    here.scanners.find? name = some scanner.used := by
  rw [called.scanners, found, Option.map_some, if_pos again]

/-- One more call. -/
theorem call (unused : before.Unused) (called : Called calls before here) (name : List Char) :
    Called (calls ++ [name]) before (here.call name).2 := by
  cases found : before.scanners.find? name with
  | none =>
    have nothing : here.scanners.find? name = none := by rw [called.scanners, found]; rfl
    rw [call_unknown nothing]
    exact called.idle (.inl found)
  | some scanner =>
    by_cases again : name ∈ calls
    · rw [call_used (called.find?_used found again) rfl]
      exact called.idle (.inr again)
    · rw [call_unused (called.find?_unused found again) (unused name scanner found)]
      exact called.first found again

end Called

theorem called_afterCalls (unused : session.Unused) (calls : List (List Char)) :
    Called calls session (session.afterCalls calls) := by
  induction calls using List.reverseRecOn with
  | nil => exact ⟨by simp [afterCalls], rfl, rfl⟩
  | append_singleton calls name ih =>
    rw [afterCalls, List.foldl_append]
    exact ih.call unused name

/-- These diagnostics are reported one after another. Nothing else happens but a record in
the log before and after them. -/
def Reported (reporter : Reporter) (diagnostics : List Diagnostic) (before after : Sinks) : Prop :=
  ∃ opening closing, after =
    (diagnostics.foldl (fun sinks diagnostic => reporter.report diagnostic sinks)
      (before.write (.debug opening))).write (.debug closing)

/-- The first call of a scanner, compared with a scan of its source alone, which has left
that scanner and those sinks. -/
structure FirstCall (scanner : Scanner) (name : List Char) (alone : Scanner) (sinks : Sinks)
    (before after : Session) : Prop where
  state : ∃ used, after.scanners.find? name = some used ∧ used.tokens = alone.tokens ∧
    used.line = alone.line ∧ used.errorCount = alone.errorCount
  collected : sinks.collectors = [⟨none, scanner.errors.toArray, 0⟩]
  count : scanner.errors.length = alone.errorCount
  reports : Reported scanner.reporter scanner.errors before.sinks after.sinks
  others : ∀ other ≠ name, after.scanners.find? other = before.scanners.find? other
  reporters : after.reporters = before.reporters

/-- To report the scan of its source and to keep it is all that a first call does. -/
theorem firstCall_of_report :
    FirstCall scanner name (Scanner.ofSource scanner.source (.collector 0)).used
      ((Scan.ofSource scanner.source).report (.collector 0) Scan.freshCollector) here
      { here with
        sinks := (Scan.ofSource scanner.source).report scanner.reporter here.sinks
        scanners := here.scanners.bind name scanner.used } where
  state := ⟨scanner.used, by rw [Bindings.find?_bind, if_pos rfl], rfl, rfl, rfl⟩
  collected := by rw [Scan.collectors_report, scanner.diagnostics_eq_errors]
  count := by
    rw [← scanner.diagnostics_eq_errors]
    exact (Scan.errorCount_eq scanner.source).symm
  reports := by
    rw [← scanner.diagnostics_eq_errors]
    exact ⟨_, _, rfl⟩
  others other different := by rw [Bindings.find?_bind, if_neg different]
  reporters := rfl

/-- The reports of several scanners arrive scanner by scanner. -/
theorem delivered_scans (scanners : List Scanner) (sinks : Sinks) :
    Delivered
      (fun destination => scanners.flatMap fun scanner =>
        scanner.reporter.arrivals scanner.errors destination)
      sinks (scanners.foldl (fun sinks scanner =>
        (Scan.ofSource scanner.source).report scanner.reporter sinks) sinks) := by
  induction scanners generalizing sinks with
  | nil => exact .refl sinks
  | cons scanner scanners ih =>
    have here := Delivered.scan (Scan.ofSource scanner.source) scanner.reporter sinks
    rw [scanner.diagnostics_eq_errors] at here
    exact here.trans (ih _)

/-- Whatever scanners are called in whatever order, the first call of a scanner does what a
scan of its source alone does, reports to its reporter alone and leaves all other scanners
as they are; a later call is refused and changes nothing. What arrives at a destination are
the errors of the scanners in the order of their first calls. -/
theorem calls_isolated (unused : session.Unused) (calls : List (List Char)) :
    let here := session.afterCalls calls
    (∀ name scanner, session.scanners.find? name = some scanner → name ∉ calls →
      ∃ tokens alone sinks, Scanner.alone scanner.source = some (tokens, alone, sinks) ∧
        (here.call name).1 = .tokens tokens ∧
        FirstCall scanner name alone sinks here (here.call name).2) ∧
    (∀ name scanner, session.scanners.find? name = some scanner → name ∈ calls →
      here.call name = (.alreadyScanned, here)) ∧
    Delivered
      (fun destination => (session.firstCalled calls).flatMap fun scanner =>
        scanner.reporter.arrivals scanner.errors destination)
      session.sinks here.sinks := by
  intro here
  have called : Called calls session here := called_afterCalls unused calls
  refine ⟨?_, ?_, ?_⟩
  · intro name scanner found new
    refine ⟨_, _, _, Scanner.alone_eq scanner.source, ?_⟩
    rw [call_unused (called.find?_unused found new) (unused name scanner found)]
    exact ⟨rfl, firstCall_of_report⟩
  · intro name scanner found again
    exact call_used (called.find?_used found again) rfl
  · rw [called.sinks]
    exact delivered_scans _ _

/-- Two scanners share a collector with a limit of three, which one of them fills through a
tee that holds it twice. The second call of the other scanner adds nothing. -/
theorem calls_share_collector :
    let tee : Reporter := .tee [.collector 0, .collector 0]
    let session : Session :=
      { sinks := ⟨[Collector.empty (some 3)], [], #[]⟩
        reporters := []
        scanners := [("at".toList, .ofSource "@".toList tee),
          ("open".toList, .ofSource "#\n\"".toList (.collector 0))] }
    let here := session.afterCalls ["open".toList, "at".toList, "open".toList]
    (∃ tokens alone sinks, Scanner.alone "@".toList = some (tokens, alone, sinks) ∧
      (session.call "at".toList).1 = .tokens tokens ∧
      FirstCall (.ofSource "@".toList tee) "at".toList alone sinks session
        (session.call "at".toList).2) ∧
    here.call "at".toList = (.alreadyScanned, here) ∧
    here.sinks.collectors[0]? = some ⟨some 3, #[.unexpectedCharacter ['#'] 1,
      .unterminatedString 2, .unexpectedCharacter ['@'] 1], 1⟩ := by
  intro tee session here
  have unused : session.Unused := unused_of_scanners (by decide)
  have start := calls_isolated unused []
  obtain ⟨_, refused, delivered⟩ :=
    calls_isolated unused ["open".toList, "at".toList, "open".toList]
  refine ⟨start.1 "at".toList (.ofSource "@".toList tee) rfl nofun,
    refused "at".toList (.ofSource "@".toList tee) rfl (by decide), ?_⟩
  exact (delivered.collectors 0).trans (by decide +kernel)

end Session

end ScriptLexer
