import QueryGate.Gate.Check
import QueryGate.Settings.Basic

/-!
# The tool of an agent

An agent submits a query and gets it back if it may be run, or the reason why not. The tool uses a
gate that was handed to it, or makes one from settings for the first query that is not blank and
keeps it. What it does is recorded in a log.

## Main definitions

* `Tool` — the gate in use, if there is one yet
* `Tool.Payload` — the answer to an agent
* `Tool.Record` — an entry of the log
* `Tool.check` — the answer to a submitted query, with the log and the tool afterwards
* `Tool.setGate` — hands a gate to the tool, or takes it away
-/

namespace QueryGate

/-- The state of the tool: the gate in use, if there is one yet. -/
structure Tool where
  gate : Option Gate := none

namespace Tool

/-- The weight of a log entry. -/
inductive Level where
  | debug
  | info
  deriving Repr, DecidableEq

/-- The name under which a weight is reported. -/
def Level.name : Level → List Char
  | debug => "DEBUG".toList
  | info => "INFO".toList

/-- An entry of the log. -/
structure Record where
  level : Level
  message : List Char
  deriving Repr, DecidableEq

/-- The answer to an agent. -/
structure Payload where
  approved : Bool
  /-- The query as submitted, or in the form in which it was rejected. -/
  query : Value
  /-- What to change, if the query was not approved. -/
  error : Option (List Char)
  kind : Option Gate.Kind

/-- Whether a submitted value holds no query at all: it does not count as given, or is shown as white
space. -/
def isBlank (query : Value) : Bool :=
  !query.isTruthy || query.asText?.any (·.all Text.isSpace)

/-- The answer to a blank query. -/
def blankPayload (query : Value) : Payload :=
  ⟨false, if query.isTruthy then query else .text [], some "Query is required".toList, none⟩

/-- The entry for a gate made from settings. -/
def builtRecord (g : Gate) : Record :=
  ⟨.debug, "QueryValidator built from settings (whitelist=".toList ++
    Value.shownBool g.whitelistEnabled ++ ", ".toList ++ Nat.toDigits 10 g.patterns.length ++
    " patterns)".toList⟩

/-- The entry for a rejected query. -/
def rejectedRecord (r : Gate.Rejection) : Record :=
  ⟨.info, "Rejected query (".toList ++ r.kind.name ++ "): ".toList ++ r.reason⟩

/-- The entry for an approved query, which is cut to its first two hundred characters. -/
def approvedRecord (shown : List Char) : Record :=
  ⟨.debug, "Approved query: ".toList ++ shown.take 200⟩

/-- The answer for a verdict on a query, and its entry in the log. -/
def decision (query : Value) (shown : List Char) : Gate.Verdict → Payload × Record
  | .approved => (⟨true, query, none, none⟩, approvedRecord shown)
  | .rejected r => (⟨false, .text r.query, some r.reason, some r.kind⟩, rejectedRecord r)

/-- The gate in use, made from settings if there is none yet, with the entries that this adds to
the log. -/
def currentGate [Pattern.Engine] (t : Tool) (settings : Except Failure Settings) :
    Except Failure (Gate × List Record) :=
  match t.gate with
  | some gate => .ok (gate, [])
  | none => do
    let gate ← (← settings).gate
    return (gate, [builtRecord gate])

/-- What a call of the tool leaves behind: the tool, the new entries of the log, and the answer or
failure. -/
structure Outcome (α : Type) where
  tool : Tool
  log : List Record
  result : Except Failure α

/-- Answers a submitted query; `settings` are those at the time of the call, if there are any. -/
def check [Pattern.Engine] (t : Tool) (settings : Except Failure Settings) (query : Value) :
    Outcome Payload :=
  if isBlank query then ⟨t, [], .ok (blankPayload query)⟩
  else
    match query.asText? with
    -- A query that cannot be shown is not looked at.
    | none => ⟨t, [], .error .numberTooLong⟩
    | some shown =>
      match t.currentGate settings with
      | .error failure => ⟨t, [], .error failure⟩
      | .ok (gate, built) =>
        -- The gate is kept even if this query cannot be decided.
        match gate.verdict query with
        | .error failure => ⟨⟨some gate⟩, built, .error failure⟩
        | .ok verdict =>
          let (payload, record) := decision query shown verdict
          ⟨⟨some gate⟩, built ++ [record], .ok payload⟩

/-- Hands a gate to the tool, or takes it away so that the next query makes one. -/
def setGate [Pattern.Engine] (t : Tool) (spec : Option GateSpec) : Outcome Unit :=
  match spec with
  | none => ⟨⟨none⟩, [], .ok ()⟩
  | some spec =>
    match Gate.make spec with
    | .ok gate => ⟨⟨some gate⟩, [], .ok ()⟩
    | .error failure => ⟨t, [], .error failure⟩

end Tool

end QueryGate
