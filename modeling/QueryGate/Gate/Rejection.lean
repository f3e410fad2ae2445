import QueryGate.Text.Quoted

/-!
# Rejections

A query is rejected for exactly one reason, the first violation that the gate finds. A violation is
a cause; its kind and its wording are functions of it.

## Main definitions

* `Kind` — the three sorts of violations
* `Flaw` — what can be wrong with the form of a query
* `Violation` — why a query is not allowed
* `Rejection` — a query with the reason for which it was rejected
* `Rejection.ofViolation` — the rejection of a query for a violation
-/

namespace QueryGate.Gate

/-- The sort of a rejection. -/
inductive Kind where
  | invalidStructure
  | disallowedKeyword
  | notWhitelisted
  deriving Repr, DecidableEq

namespace Kind

/-- The name under which a sort is reported. -/
def name : Kind → List Char
  | invalidStructure => "invalid_structure".toList
  | disallowedKeyword => "disallowed_keyword".toList
  | notWhitelisted => "not_whitelisted".toList

/-- The sort with the given name. -/
def ofName? (text : List Char) : Option Kind :=
  [invalidStructure, disallowedKeyword, notWhitelisted].find? fun kind => kind.name == text

end Kind

/-- What can be wrong with the form of a query. -/
inductive Flaw where
  /-- The bytes of the query are not text. -/
  | notUtf8
  /-- The query is neither text nor bytes. -/
  | notText
  /-- The query has more characters than the limit, which is given as it is shown. -/
  | tooLong (limit : List Char)
  /-- A semicolon stands in a comment that some server runs. -/
  | executableSeparator
  /-- A block comment runs to the end of the query. -/
  | unterminatedComment
  /-- The query does not begin with the word `SELECT`. -/
  | notSelect
  /-- Something follows a semicolon. -/
  | severalStatements
  /-- The word `SELECT` occurs more than once. -/
  | nestedSelect
  deriving Repr, DecidableEq

/-- The wording of a flaw. -/
def Flaw.detail : Flaw → List Char
  | notUtf8 => "Query is not valid UTF-8".toList
  | notText => "Query must be a string".toList
  | tooLong limit => "Query exceeds maximum length of ".toList ++ limit ++ " characters".toList
  | executableSeparator => "Statement separator inside executable comment".toList
  | unterminatedComment => "Unterminated block comment".toList
  | notSelect => "Query must begin with SELECT".toList
  | severalStatements =>
    "Multiple statements detected; only a single trailing semicolon is allowed".toList
  | nestedSelect => "Nested SELECT statements (subqueries) are not allowed".toList

/-- Why a query is not allowed. -/
inductive Violation where
  | flawed (flaw : Flaw)
  /-- A blocked word or literal, in the form in which it is named. -/
  | blocked (token : List Char)
  /-- The whitelist is on, and no pattern allows the query. -/
  | notAllowed
  deriving Repr, DecidableEq

/-- A rejected query, as it was submitted, with the reason in words. -/
structure Rejection where
  query : List Char
  reason : List Char
  kind : Kind
  deriving Repr, DecidableEq

namespace Rejection

/-- The rejection of a query whose form is wrong in the way described. -/
def invalidStructure (query detail : List Char) : Rejection :=
  ⟨query, "Invalid query structure: ".toList ++ detail, .invalidStructure⟩

/-- The rejection of a query for a blocked word. -/
def disallowedKeyword (query keyword : List Char) : Rejection :=
  ⟨query, "Disallowed SQL keyword '".toList ++ keyword ++
    "' detected: only read-only SELECT queries are allowed".toList, .disallowedKeyword⟩

/-- The rejection of a query that no pattern allows. -/
def notWhitelisted (query : List Char) : Rejection :=
  ⟨query, "Query does not match any allowed pattern".toList, .notWhitelisted⟩

/-- The rejection of a query for a violation. -/
def ofViolation (query : List Char) : Violation → Rejection
  | .flawed flaw => invalidStructure query flaw.detail
  | .blocked token => disallowedKeyword query token
  | .notAllowed => notWhitelisted query

/-- A rejection as it is shown to a developer. -/
def shown (r : Rejection) : List Char :=
  "ForbiddenQueryError(kind=".toList ++ Text.quote r.kind.name ++ ", reason=".toList ++
    Text.quote r.reason ++ [')']

end Rejection

end QueryGate.Gate
