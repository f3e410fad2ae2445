import QueryGate.Gate.Basic
import QueryGate.Gate.Blocked
import QueryGate.Sql.Strip
import QueryGate.Text.CaseVariant
import QueryGate.Text.Spacing
import QueryGate.Text.Utf8

/-!
# Checking a query

The checks stand in a fixed order and the first violation wins: comments, the beginning of the
query, further statements, blocked tokens, further `SELECT` words, the whitelist. Comments differ
between servers, so statements, tokens and `SELECT` words are looked for in the raw text as well as
in the text without its comments, and the whitelist is applied to what a server would run.

## Main definitions

* `startsWithSelect` — whether a text begins with the word `SELECT`
* `Gate.commentViolation?` — the first violation by a comment
* `Gate.violation?` — the first violation by a query text
* `Gate.verdict` — the verdict on any value
* `Gate.validate`, `Gate.isValid` — the verdict as a barrier and as a truth value
-/

namespace QueryGate

namespace Text

/-- The text after the given letters, in either case, if it begins with them. -/
def afterLetters? : List Char → List Char → Option (List Char)
  | [], text => some text
  | _ :: _, [] => none
  | letter :: letters, c :: text =>
    if sameLetter letter c then afterLetters? letters text else none

end Text

namespace Gate

/-- Whether a text begins with the word `SELECT`, in either case. -/
def startsWithSelect (text : List Char) : Bool :=
  (Text.afterLetters? Keyword.select text).any fun rest => !Text.startsInWord rest

/-- The violation by the body of an executable comment. It is held to the rules for a query before
the comment may be skipped. -/
def bodyViolation? (g : Gate) (body : List Char) : Option Violation :=
  match findBlocked g.blockedTables body with
  | some token => some (.blocked token)
  | none =>
    if Text.countWord Keyword.select body != 0 then some (.blocked Keyword.select)
    else if body.contains ';' then some (.flawed .executableSeparator)
    else none

/-- The violation by a segment as a comment. -/
def segmentViolation? (g : Gate) (segment : Sql.Segment) : Option Violation :=
  let unclosed? : Option Violation :=
    if segment.isComment && !segment.isTerminated then some (.flawed .unterminatedComment) else none
  match segment with
  | .executableComment _ _ body _ => (g.bodyViolation? body).or unclosed?
  | _ => unclosed?

/-- The first violation by a comment. -/
def commentViolation? (g : Gate) (segments : List Sql.Segment) : Option Violation :=
  segments.findSome? g.segmentViolation?

/-- The violation by a text that is to be run, all comments apart: `plain` is the text without
comments in normal form, `query` the raw text. -/
def statementViolation? (g : Gate) (query plain : List Char) : Option Violation :=
  let body := Text.dropSemicolon plain
  -- A semicolon counts in the raw text too: what is a comment here may be code elsewhere.
  if !startsWithSelect plain then some (.flawed .notSelect)
  else if body.contains ';' || Text.hasSeparator query then some (.flawed .severalStatements)
  else
    match findBlocked g.blockedTables body with
    | some token => some (.blocked token)
    | none =>
      -- Comments can hide a token, or what follows it, from the plain text.
      match findBlocked g.blockedTables query with
      | some token => some (.blocked token)
      | none =>
        if 1 < Text.countWord Keyword.select query then some (.flawed .nestedSelect) else none

/-- The text without comments in normal form. -/
def plainForm (segments : List Sql.Segment) : List Char :=
  Text.normalize (Sql.withoutComments segments)

/-- The text that a server runs, in normal form and without its final semicolon. -/
def executedForm (segments : List Sql.Segment) : List Char :=
  Text.dropSemicolon (Text.normalize (Sql.asExecuted segments))

/-- The first violation by a query text, its length aside. -/
def violation? (g : Gate) (query : List Char) : Option Violation :=
  let segments := Sql.split query
  -- Comments come first, so that the checks below see only comments that are closed.
  match g.commentViolation? segments with
  | some violation => some violation
  | none =>
    match g.statementViolation? query (plainForm segments) with
    | some violation => some violation
    | none =>
      if g.whitelistEnabled && !g.allows (executedForm segments) then some .notAllowed else none

/-- The text of a submitted value. A value that has none is rejected as it is shown, which fails if it
holds too long a number. -/
def textOf : Value → Except Failure (List Char)
  | .text text => .ok text
  | .bytes content =>
    match Text.Utf8.decode? content with
    | some text => .ok text
    | none =>
      .error (.rejected (.ofViolation (Text.Utf8.decodeLenient content) (.flawed .notUtf8)))
  | .null => .error (.rejected (.ofViolation [] (.flawed .notText)))
  | v =>
    match v.shown? with
    | some shown => .error (.rejected (.ofViolation shown (.flawed .notText)))
    | none => .error .numberTooLong

/-- The rejection that the fields of a record describe; further fields do not matter. -/
def Rejection.ofFields (fields : Value) : Except Failure Rejection :=
  match fields.field? "query", fields.field? "reason", fields.field? "kind" with
  | some (.text query), some (.text reason), some (.text kind) =>
    match Kind.ofName? kind with
    | some kind => .ok ⟨query, reason, kind⟩
    | none => .error .invalidField
  | _, _, _ => .error .invalidField

/-- What a gate says about a query. -/
inductive Verdict where
  | approved
  | rejected (rejection : Rejection)
  deriving Repr, DecidableEq

namespace Verdict

/-- The verdict for a violation, if there is one. -/
def ofViolation? (query : List Char) : Option Violation → Verdict
  | none => approved
  | some violation => rejected (.ofViolation query violation)

/-- Whether the query may be run. -/
def isApproved : Verdict → Bool
  | approved => true
  | rejected _ => false

/-- The rejection, if there is one. -/
def rejection? : Verdict → Option Rejection
  | approved => none
  | rejected rejection => some rejection

/-- The reason for a rejection, if there is one. -/
def reason? (v : Verdict) : Option (List Char) :=
  v.rejection?.map Rejection.reason

end Verdict

/-- The verdict on a query text. It fails if the length limit is no number, or is exceeded but too
long to be shown. -/
def textVerdict (g : Gate) (query : List Char) : Except Failure Verdict :=
  -- The length is looked at before anything else, so that a long query costs nothing.
  match g.limit.exceededBy? query.length with
  | none => .error .incomparableLimit
  | some true =>
    match g.limit.shown? with
    | some shown => .ok (.rejected (.ofViolation query (.flawed (.tooLong shown))))
    | none => .error .numberTooLong
  | some false => .ok (.ofViolation? query (g.violation? query))

/-- The verdict on any submitted value. -/
def verdict (g : Gate) (query : Value) : Except Failure Verdict :=
  match textOf query with
  | .ok text => g.textVerdict text
  | .error (.rejected rejection) => .ok (.rejected rejection)
  | .error failure => .error failure

/-- Lets an allowed query pass and fails with the rejection of any other. -/
def validate (g : Gate) (query : Value) : Except Failure Unit := do
  match ← g.verdict query with
  | .approved => return
  | .rejected rejection => .error (.rejected rejection)

/-- Whether a query is allowed. -/
def isValid (g : Gate) (query : Value) : Except Failure Bool :=
  return (← g.verdict query).isApproved

end Gate

end QueryGate
