import ScriptLexer.Reporting.Scanner

/-! Sessions: collectors, streams, tees and scanners under names, and steps that make
and use them. Reporters and scanners are named separately. To give a name again
makes a new object; whatever was built on the old one goes on using it. -/
namespace ScriptLexer

/-- Names with what they stand for. A name stands for one thing at a time. -/
abbrev Bindings (α : Type) := List (List Char × α)

namespace Bindings

variable {α : Type}

def find? (bindings : Bindings α) (name : List Char) : Option α :=
  bindings.lookup name

/-- Binds a name, which forgets what it stood for before. -/
def bind (bindings : Bindings α) (name : List Char) (value : α) : Bindings α :=
  bindings.filter (fun binding => binding.1 != name) ++ [(name, value)]

theorem lookup_cons (first other : List Char) (value : α) (bindings : Bindings α) :
    List.lookup other ((first, value) :: bindings) =
      if other = first then some value else bindings.lookup other := by
  rw [List.lookup_cons]
  by_cases same : other = first
  · simp [same]
  · simp [beq_false_of_ne same, same]

/-- A name that was forgotten stands for nothing, and no other name is forgotten with it. -/
theorem lookup_forget (bindings : Bindings α) (name other : List Char) :
    (bindings.filter fun binding => binding.1 != name).lookup other =
      if other = name then none else bindings.lookup other := by
  induction bindings with
  | nil => simp
  | cons binding bindings ih =>
    obtain ⟨first, value⟩ := binding
    rw [lookup_cons]
    by_cases forgotten : first = name
    · rw [List.filter_cons_of_neg (by simp [forgotten]), ih, forgotten]
      split <;> rfl
    · rw [List.filter_cons_of_pos (by simp [forgotten]), lookup_cons, ih]
      by_cases same : other = name
      · simp [same, Ne.symm forgotten]
      · simp [same]

/-- A name stands for what it was bound to last. -/
theorem find?_bind (bindings : Bindings α) (name other : List Char) (value : α) :
    (bindings.bind name value).find? other =
      if other = name then some value else bindings.find? other := by
  rw [find?, bind, List.lookup_append, lookup_forget, lookup_cons, List.lookup_nil]
  by_cases same : other = name
  · simp [same]
  · simp [same, find?]

end Bindings

/-- Everything a session holds. -/
structure Session where
  sinks : Sinks
  reporters : Bindings Reporter
  scanners : Bindings Scanner

namespace Session

/-- A session in which nothing is named yet. -/
def empty : Session := ⟨Sinks.empty, [], []⟩

/-- One step of a session. Where a reporter is optional, diagnostics go to the
console without it. -/
inductive Step
  | newCollector (name : List Char) (limit : Option Int)
  | newStream (name : List Char)
  /-- Names the console as a reporter. -/
  | useConsole (name : List Char)
  | newTee (name : List Char) (parts : List (List Char))
  | report (reporter : List Char) (diagnostic : Diagnostic)
  | newScanner (name source : List Char) (reporter : Option (List Char))
  | scanAll (scanner : List Char)
  | scannerState (scanner : List Char)
  /-- Scans a source with a scanner that gets no name. -/
  | scanTokens (source : List Char) (reporter : Option (List Char))
  | reportText (collector : List Char)
  | diagnostics (collector : List Char)
  | clear (collector : List Char)
  /-- Asks for the error made of everything a collector has received. -/
  | failure (collector : List Char)

/-- What a step answers. -/
inductive Answer
  | nothing
  | tokens (tokens : List Token)
  | scannerState (tokens line errors : Nat)
  | text (text : List Char)
  | diagnostics (diagnostics : List Diagnostic)
  | failed (error : LexicalError)
  /-- The scanner was used before. -/
  | alreadyScanned
  /-- A name stands for nothing, or for nothing of the kind asked for. -/
  | unknown (name : List Char)

/-- The reporter of a name, or the console where no name is given. -/
def reporter (session : Session) : Option (List Char) → Except (List Char) Reporter
  | none => .ok .console
  | some name =>
    match session.reporters.find? name with
    | some reporter => .ok reporter
    | none => .error name

/-- The collector of a name, with its number. -/
def collector (session : Session) (name : List Char) : Except (List Char) (Nat × Collector) :=
  match session.reporters.find? name with
  | some (.collector index) =>
    match session.sinks.collectors[index]? with
    | some collector => .ok (index, collector)
    | none => .error name
  | _ => .error name

/-- Scans with a scanner, and gives what it becomes. -/
def scanWith (session : Session) (scanner : Scanner) :
    Option (List Token × Scanner × Session) :=
  (scanner.scanAll? session.sinks).map fun (tokens, used, sinks) =>
    (tokens, used, { session with sinks })

/-- The effect of a step that finds the names it needs. -/
def perform (session : Session) : Step → Except (List Char) (Answer × Session)
  | .newCollector name limit =>
    let (reporter, sinks) := session.sinks.addCollector limit
    .ok (.nothing, { session with sinks, reporters := session.reporters.bind name reporter })
  | .newStream name =>
    let (reporter, sinks) := session.sinks.addStream
    .ok (.nothing, { session with sinks, reporters := session.reporters.bind name reporter })
  | .useConsole name =>
    .ok (.nothing, { session with reporters := session.reporters.bind name .console })
  | .newTee name parts => do
    let reporters ← parts.mapM fun part => session.reporter (some part)
    return (.nothing, { session with reporters := session.reporters.bind name (.tee reporters) })
  | .report name diagnostic => do
    let reporter ← session.reporter (some name)
    return (.nothing, { session with sinks := reporter.report diagnostic session.sinks })
  | .newScanner name source reporterName => do
    let reporter ← session.reporter reporterName
    let scanner := Scanner.ofSource source reporter
    return (.nothing, { session with scanners := session.scanners.bind name scanner })
  | .scanAll name =>
    match session.scanners.find? name with
    | none => .error name
    | some scanner =>
      match session.scanWith scanner with
      | none => .ok (.alreadyScanned, session)
      | some (tokens, used, after) =>
        .ok (.tokens tokens, { after with scanners := after.scanners.bind name used })
  | .scannerState name =>
    match session.scanners.find? name with
    | none => .error name
    | some scanner =>
      .ok (.scannerState scanner.tokens.length scanner.line scanner.errorCount, session)
  | .scanTokens source reporterName => do
    let reporter ← session.reporter reporterName
    match session.scanWith (Scanner.ofSource source reporter) with
    | none => return (.alreadyScanned, session)
    | some (tokens, _, after) => return (.tokens tokens, after)
  | .reportText name => do
    let (_, collector) ← session.collector name
    return (.text collector.reportText, session)
  | .diagnostics name => do
    let (_, collector) ← session.collector name
    return (.diagnostics collector.stored.toList, session)
  | .clear name => do
    let (index, _) ← session.collector name
    let collectors := session.sinks.collectors.modify index (·.clear)
    return (.nothing, { session with sinks := { session.sinks with collectors } })
  | .failure name => do
    let (_, collector) ← session.collector name
    match collector.failure? with
    | none => return (.nothing, session)
    | some error => return (.failed error, session)

/-- Performs a step and gives what it wrote to the console on its own. A step that
needs a name which stands for nothing changes nothing. -/
def step (session : Session) (step : Step) : Answer × List Event × Session :=
  let silent := { session with sinks := { session.sinks with console := #[] } }
  match silent.perform step with
  | .ok (answer, after) => (answer, after.sinks.console.toList, after)
  | .error name => (.unknown name, [], silent)

/-- The collectors that have a name. -/
def namedCollectors (session : Session) : Bindings Collector :=
  session.reporters.filterMap fun (name, reporter) =>
    match reporter with
    | .collector index => (session.sinks.collectors[index]?).map (name, ·)
    | _ => none

/-- The streams that have a name, with all that was written to them. -/
def namedStreams (session : Session) : Bindings (List Char) :=
  session.reporters.filterMap fun (name, reporter) =>
    match reporter with
    | .stream index => (session.sinks.streams[index]?).map (name, ·.flatten)
    | _ => none

end Session

end ScriptLexer
