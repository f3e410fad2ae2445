import QueryGate.Pattern.Basic

/-!
# The default patterns

Two shapes of a query over a single table: a list of columns with an optional condition, order and
limit, and a count. They are written against normalised text, so parts are separated by single
spaces, and every repetition begins with a fixed delimiter.

## Main definitions

* `Default.columnsQuery`, `Default.countQuery` — the written forms
* `Default.sources` — both of them, in order
* `Default.patterns` — both of them, ready for use
-/

namespace QueryGate.Pattern.Default

/-- A name, which never begins with a digit, with an optional backtick on either side. -/
def name : List Char := "`?[^\\W\\d]\\w*`?".toList

/-- A group that only holds alternatives or an option together. -/
def grouped (inside : List Char) : List Char := "(?:".toList ++ inside ++ [')']

/-- An optional part. -/
def optional (inside : List Char) : List Char := grouped inside ++ ['?']

/-- A part that can be repeated any number of times. -/
def anyNumber (inside : List Char) : List Char := grouped inside ++ ['*']

/-- Alternatives. -/
def oneOf (choices : List (List Char)) : List Char := ['|'].intercalate choices

/-- A list whose elements are separated by a comma, with a space allowed on either side. -/
def commaList (element : List Char) : List Char :=
  element ++ anyNumber (" ?, ?".toList ++ element)

/-- A column name with an optional table name before it. -/
def column : List Char := name ++ optional ("\\.".toList ++ name)

/-- A literal in single or double quotes, with doubled quotes and backslashes inside. -/
def literal : List Char :=
  "'(?:[^'\\\\]|\\\\.|'')*'|\\\"(?:[^\\\"\\\\]|\\\\.|\\\"\\\")*\\\"".toList

/-- A number, a literal or a column. -/
def value : List Char := grouped (oneOf ["-?\\d+(?:\\.\\d+)?".toList, literal, column])

/-- A comparison operator. -/
def operator : List Char := "(?:=|!=|<>|<=|>=|<|>)".toList

/-- A single condition on a column. -/
def condition : List Char :=
  grouped (oneOf [
    column ++ " ?".toList ++ operator ++ " ?".toList ++ value,
    column ++ " (?:NOT )?LIKE ".toList ++ value,
    column ++ " IS (?:NOT )?NULL".toList,
    column ++ " (?:NOT )?IN ?\\( ?".toList ++ commaList value ++ " ?\\)".toList,
    column ++ " (?:NOT )?BETWEEN ".toList ++ value ++ " AND ".toList ++ value])

/-- Conditions joined by `AND` and `OR`. -/
def whereClause : List Char :=
  optional (" WHERE ".toList ++ condition ++ anyNumber (" (?:AND|OR) ".toList ++ condition))

/-- A column to sort by, with an optional direction. -/
def sortKey : List Char := column ++ "(?: (?:ASC|DESC))?".toList

/-- The order of the answer. -/
def orderClause : List Char := optional (" ORDER BY ".toList ++ commaList sortKey)

/-- The size of the answer, with an optional offset. -/
def limitClause : List Char := "(?: LIMIT \\d+(?:(?: ?, ?| OFFSET )\\d+)?)?".toList

/-- A new name for a column of the answer. -/
def newName : List Char := optional (" AS ".toList ++ name)

/-- The columns of the answer. -/
def columns : List Char := grouped (oneOf ["\\*".toList, commaList (column ++ newName)])

/-- Columns from a single table. -/
def columnsQuery : List Char :=
  "SELECT (?:DISTINCT )?".toList ++ columns ++ " FROM ".toList ++ name ++ whereClause ++
    orderClause ++ limitClause

/-- The number of rows of a single table. -/
def countQuery : List Char :=
  "SELECT COUNT ?\\( ?".toList ++ grouped (oneOf ["\\*".toList, column]) ++ " ?\\)".toList ++
    newName ++ " FROM ".toList ++ name ++ whereClause

/-- The written forms of the default patterns. -/
def sources : List (List Char) := [columnsQuery, countQuery]

/-- The default patterns; letters match in either case. -/
def patterns : List Pattern :=
  sources.filterMap fun source =>
    (readExpression source).toOption.map (.expression source true)

end QueryGate.Pattern.Default
