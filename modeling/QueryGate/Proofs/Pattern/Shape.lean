import QueryGate.Gate.Basic

/-!
# The default patterns as expressions

The default patterns are put together from written pieces. Read, they are put together from the
expressions of these pieces in the same way: a piece that stands in a sequence brings its items
along, and a piece in a group is an expression of its own.

## Main definitions

* `Shape.columnsQuery`, `Shape.countQuery` — the items of the two default patterns

## Main results

* `patterns_default` — the default patterns, ready for use
* `Gate.standard_eq` — the gate made from no arguments, with its patterns read
-/

namespace QueryGate.Pattern

namespace Shape

open Expression

/-- Alternatives. -/
def choice : List Expression → Expression
  | [] => .empty
  | [e] => e
  | e :: rest => .alt e (choice rest)

/-- Letters one after the other. -/
def phrase (letters : List Char) : List Expression := letters.map .char

/-- An item that may be absent. -/
def maybe (e : Expression) : Expression := .repeated e 0 (some 1)

/-- A group of alternatives, each of them a sequence. -/
def grouped (choices : List (List Expression)) : Expression :=
  .group none (choice (choices.map seqAll))

/-- An optional sequence. -/
def optional (items : List Expression) : Expression := maybe (grouped [items])

/-- A sequence that can be repeated any number of times. -/
def anyNumber (items : List Expression) : Expression := .repeated (grouped [items]) 0 none

/-- A space that may be absent. -/
def gap : Expression := maybe (.char ' ')

def name : List Expression :=
  [maybe (.char '\x60'), .oneOf true [.category .word true, .category .digit false],
    .repeated (.oneOf false [.category .word false]) 0 none, maybe (.char '\x60')]

def column : List Expression := name ++ [optional (.char '.' :: name)]

def commaList (element : List Expression) : List Expression :=
  element ++ [anyNumber ([gap, .char ',', gap] ++ element)]

/-- One digit or more. -/
def digits : Expression := .repeated (.oneOf false [.category .digit false]) 1 none

def number : List Expression := [maybe (.char '-'), digits, optional [.char '.', digits]]

/-- What stands between two quotes. -/
def inside (quote : Char) : Expression :=
  .repeated (grouped [[.oneOf true [.single quote, .single '\\']], [.char '\\', .anyChar],
    [.char quote, .char quote]]) 0 none

def literal (quote : Char) : List Expression := [.char quote, inside quote, .char quote]

def value : Expression := grouped [number, literal '\x27', literal '\x22', column]

def operator : Expression :=
  grouped (["=", "!=", "<>", "<=", ">=", "<", ">"].map fun mark => phrase mark.toList)

def negation : Expression := optional (phrase "NOT ".toList)

def condition : Expression :=
  grouped [
    column ++ [gap, operator, gap, value],
    column ++ phrase " ".toList ++ [negation] ++ phrase "LIKE ".toList ++ [value],
    column ++ phrase " IS ".toList ++ [negation] ++ phrase "NULL".toList,
    column ++ phrase " ".toList ++ [negation] ++ phrase "IN".toList ++ [gap, .char '(', gap] ++
      commaList [value] ++ [gap, .char ')'],
    column ++ phrase " ".toList ++ [negation] ++ phrase "BETWEEN ".toList ++ [value] ++
      phrase " AND ".toList ++ [value]]

def whereClause : Expression :=
  optional (phrase " WHERE ".toList ++ [condition, anyNumber (phrase " ".toList ++
    [grouped [phrase "AND".toList, phrase "OR".toList]] ++ phrase " ".toList ++ [condition])])

def sortKey : List Expression :=
  column ++ [optional (phrase " ".toList ++
    [grouped [phrase "ASC".toList, phrase "DESC".toList]])]

def orderClause : Expression := optional (phrase " ORDER BY ".toList ++ commaList sortKey)

def limitClause : Expression :=
  optional (phrase " LIMIT ".toList ++ [digits, optional
    [grouped [[gap, .char ',', gap], phrase " OFFSET ".toList], digits]])

def newName : Expression := optional (phrase " AS ".toList ++ name)

/-- Columns from a single table. -/
def columnsQuery : List Expression :=
  phrase "SELECT ".toList ++ [optional (phrase "DISTINCT ".toList),
    grouped [[.char '*'], commaList (column ++ [newName])]] ++ phrase " FROM ".toList ++ name ++
    [whereClause, orderClause, limitClause]

/-- The number of rows of a single table. -/
def countQuery : List Expression :=
  phrase "SELECT ".toList ++ phrase "COUNT".toList ++ [gap, .char '(', gap,
    grouped [[.char '*'], column], gap, .char ')', newName] ++ phrase " FROM ".toList ++ name ++
    [whereClause]

end Shape

open Expression

set_option maxRecDepth 20000 in
/-- What the reader makes of the two written forms. -/
theorem readExpression_default :
    (readExpression Default.columnsQuery).toOption = some (seqAll Shape.columnsQuery) ∧
      (readExpression Default.countQuery).toOption = some (seqAll Shape.countQuery) := by
  decide

/-- The default patterns, ready for use. -/
theorem patterns_default :
    Default.patterns =
      [.expression Default.columnsQuery true (seqAll Shape.columnsQuery),
        .expression Default.countQuery true (seqAll Shape.countQuery)] := by
  obtain ⟨columns, count⟩ := readExpression_default
  simp [Default.patterns, Default.sources, columns, count]

end QueryGate.Pattern

namespace QueryGate

/-- The gate made from no arguments, with its patterns read. -/
theorem Gate.standard_eq :
    Gate.standard =
      ⟨[.expression Pattern.Default.columnsQuery true
          (Pattern.Expression.seqAll Pattern.Shape.columnsQuery),
        .expression Pattern.Default.countQuery true
          (Pattern.Expression.seqAll Pattern.Shape.countQuery)],
        .bool true, [], .unlimited⟩ := by
  rw [Gate.standard, Pattern.patterns_default]

end QueryGate
