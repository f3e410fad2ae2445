import QueryGate.Gate.Builder
import QueryGate.Gate.Check
import QueryGate.Settings.Basic

/-!
# Sessions

A session holds a current gate and, once one was begun, a draft of another. Each step either gives
an answer or fails, and says by itself what it leaves of the session in either case.

## Main definitions

* `Session` — the current gate and the current draft
* `Session.Step` — what can be asked of a session
* `Session.Answer` — what a step gives
* `Session.perform` — a step as an action on a session
* `Session.step` — the session after a step, and its answer or failure
* `Session.run` — the answers of several steps in a row
-/

namespace QueryGate

/-- A current gate and, possibly, a draft of another. -/
structure Session where
  gate : Gate
  draft : Option Gate.Draft := none

namespace Session

/-- The session at its start. -/
def start : Session := ⟨Gate.standard, none⟩

/-- What can be asked of a session. -/
inductive Step where
  /-- Makes a gate from arguments. -/
  | create (spec : GateSpec)
  /-- Makes a gate from settings, if there are any. -/
  | configure (settings : Except Failure Settings)
  /-- Begins a new draft. -/
  | newDraft
  | usePatterns (patterns : PatternCollection)
  | addToDraft (pattern : PatternArgument)
  | setWhitelist (enabled : Value)
  | blockTables (tables : TableCollection)
  | setLimit (limit : Gate.Limit)
  /-- Makes a gate from the draft. -/
  | build
  /-- Adds a pattern to the current gate. -/
  | addPattern (pattern : PatternArgument)
  | validate (query : Value)
  | isValid (query : Value)
  | check (query : Value)
  | listPatterns
  /-- A step that has no meaning. -/
  | unknown

/-- What a step gives. -/
inductive Answer where
  /-- Nothing but that the step was taken. -/
  | done
  /-- The object that took the step, so that more can follow. -/
  | itself
  | truth (b : Bool)
  | verdict (v : Gate.Verdict)
  | texts (ts : List (List Char))

/-- An action on the current gate. -/
def onGate {α : Type} (action : Action Gate α) : Action Session α := do
  let (result, gate) := action.run.run (← get).gate
  modify fun s => { s with gate }
  result

/-- An action on the draft, if there is one. -/
def onDraft {α : Type} (action : Action Gate.Draft α) : Action Session α := do
  let some draft := (← get).draft | throw .noBuilder
  let (result, draft) := action.run.run draft
  modify fun s => { s with draft := some draft }
  result

/-- A change of the draft, which is answered by the draft itself. -/
def changeDraft (change : Action Gate.Draft Unit) : Action Session Answer := do
  onDraft change
  return .itself

/-- Puts a gate in place of the current one. -/
def install (gate : Gate) : Action Session Answer := do
  modify fun s => { s with gate }
  return .done

/-- A step as an action on a session. -/
def perform [Pattern.Engine] : Step → Action Session Answer
  | .create spec => do install (← Gate.make spec)
  | .configure settings => do install (← (← settings).gate)
  | .newDraft => do
    modify fun s => { s with draft := some {} }
    return .done
  | .usePatterns patterns => changeDraft (Gate.Draft.usePatterns patterns)
  | .addToDraft pattern => changeDraft (Gate.Draft.addPattern pattern)
  | .setWhitelist enabled => changeDraft (Gate.Draft.setWhitelist enabled)
  | .blockTables tables => changeDraft (Gate.Draft.blockTables tables)
  | .setLimit limit => changeDraft (Gate.Draft.setLimit limit)
  | .build => do install (← onDraft Gate.Draft.build)
  | .addPattern pattern => do
    onGate (Gate.addPattern pattern)
    return .itself
  | .validate query => do
    (← get).gate.validate query
    return .done
  | .isValid query => do return .truth (← (← get).gate.isValid query)
  | .check query => do return .verdict (← (← get).gate.verdict query)
  | .listPatterns => do return .texts ((← get).gate.patterns.map Pattern.text)
  | .unknown => throw .unknownOperation

/-- The session after a step, and the answer of the step or its failure. -/
def step [Pattern.Engine] (s : Session) (action : Step) : Session × Except Failure Answer :=
  let (result, after) := (perform action).run.run s
  (after, result)

/-- The sessions after each of several steps, with the answers. -/
def run [Pattern.Engine] (s : Session) : List Step → List (Session × Except Failure Answer)
  | [] => []
  | action :: rest =>
    let result := s.step action
    result :: run result.1 rest

end Session

end QueryGate
