import QueryGate.Gate.Rejection
import QueryGate.Pattern.Reader

/-!
# Failures

An operation that cannot give its answer says why. A rejected query is one such reason where the
operation is asked to let only allowed queries pass; the others concern what the gate was set up
with.

## Main definitions

* `Failure` — why an operation gives no answer
* `Failure.message?` — its wording, where it has one of its own
-/

namespace QueryGate

/-- Why an operation gives no answer. -/
inductive Failure where
  /-- The query was rejected. -/
  | rejected (rejection : Gate.Rejection)
  /-- A pattern is not a regular expression. -/
  | badExpression (error : Pattern.ReadError)
  /-- A pattern is neither a text nor a matcher. -/
  | notAPattern (typeName : List Char)
  /-- A value cannot be gone through one by one. -/
  | notIterable
  /-- A list that was handed over failed while it was gone through, with an error of its own. -/
  | interrupted (errorName : List Char)
  /-- The length limit is not a number. -/
  | incomparableLimit
  /-- A whole number has too many digits to be shown. -/
  | numberTooLong
  /-- A table name has no upper-case form. -/
  | notAName
  /-- A step of a builder was taken before there was one. -/
  | noBuilder
  /-- A step or operation of an unknown name. -/
  | unknownOperation
  /-- A kind of rejection of an unknown name. -/
  | unknownKind
  /-- A field of a record is missing or has a wrong value. -/
  | invalidField
  /-- A list in the settings is not written in JSON. -/
  | unreadableSetting
  /-- A file is not UTF-8. -/
  | undecodableFile
  /-- A path holds the character NUL. -/
  | unusablePath
  /-- A message has a closing tag with nothing to close. -/
  | badMarkup
  deriving Repr, DecidableEq

/-- The wording of a failure, where it has one of its own. -/
def Failure.message? : Failure → Option (List Char)
  | rejected rejection => some rejection.reason
  | notAPattern typeName =>
    some ("Whitelist pattern must be a string or compiled pattern, got ".toList ++ typeName)
  | _ => none

end QueryGate
