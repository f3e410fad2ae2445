import QueryGate.Sql.Split

/-!
# Readings of a query without its comments

Servers differ in what they do with an executable comment, so a query has two readings: one in
which every comment is a gap, and one in which the bodies of executable comments are code.

## Main definitions

* `withoutComments` — every comment replaced by one space
* `asExecuted` — executable comments replaced by their bodies, all others by one space
-/

namespace QueryGate.Sql

namespace Segment

/-- What a segment contributes when all comments are skipped. -/
def skipped (s : Segment) : List Char :=
  if s.isComment then [' '] else s.text

/-- What a segment contributes when executable comments are run. -/
def executed : Segment → List Char
  | executableComment _ _ body _ => ' ' :: body ++ [' ']
  | s => s.skipped

end Segment

/-- The text of some segments with each comment replaced by one space. -/
def withoutComments (segments : List Segment) : List Char :=
  segments.flatMap Segment.skipped

/-- The text that a server of the MySQL family runs. -/
def asExecuted (segments : List Segment) : List Char :=
  segments.flatMap Segment.executed

end QueryGate.Sql
