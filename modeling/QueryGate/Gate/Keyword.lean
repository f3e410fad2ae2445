/-!
# Keyword tables

The words that a read-only query may not contain, sorted by what they do. All tables hold
upper-case words and are compared with the upper-case forms of the words of a query. Most words are
blocked wherever they stand; some depend on what follows them, which `QueryGate.Gate.Blocked` says.

## Main definitions

* `statements`, `setOperators`, `timingFunctions`, `systemCatalogs` — words blocked everywhere
* `alwaysBlocked` — all of them together
* `encodingFunctions`, `functionsOnly`, `systemSchemas` — words blocked in context
* `encodedNumberMarks`, `encodedStringMarks` — the beginnings of encoded literals
-/

namespace QueryGate.Gate.Keyword

/-- The words of a table as lists of characters. -/
def table (words : List String) : List (List Char) :=
  words.map String.toList

/-- Changing data, changing definitions, permissions and server administration. -/
def statements : List (List Char) := table [
  "INSERT", "UPDATE", "DELETE", "DROP", "TRUNCATE", "ALTER", "CREATE", "RENAME", "MERGE", "GRANT",
  "REVOKE", "FLUSH", "KILL", "RESET", "PURGE", "EXECUTE", "EXEC", "PREPARE", "DEALLOCATE", "CALL",
  "SET", "INTO", "OUTFILE", "DUMPFILE", "LOAD", "LOAD_FILE", "ATTACH", "DETACH", "PRAGMA",
  "HANDLER", "LOCK", "UNLOCK"]

/-- Operators that join several queries. -/
def setOperators : List (List Char) := table ["UNION", "INTERSECT", "EXCEPT"]

/-- Functions that make a query wait. -/
def timingFunctions : List (List Char) := table ["SLEEP", "BENCHMARK", "PG_SLEEP", "WAITFOR"]

/-- Tables in which servers describe themselves. -/
def systemCatalogs : List (List Char) := table [
  "INFORMATION_SCHEMA", "PERFORMANCE_SCHEMA", "PG_CATALOG", "SQLITE_MASTER", "SQLITE_SCHEMA",
  "SQLITE_TEMP_MASTER"]

/-- The words that are blocked wherever they stand. -/
def alwaysBlocked : List (List Char) :=
  statements ++ setOperators ++ timingFunctions ++ systemCatalogs

/-- Functions that build text from character codes; blocked when called. -/
def encodingFunctions : List (List Char) := table ["CHAR", "CHR"]

/-- Words that name both a statement and a function; blocked unless called. -/
def functionsOnly : List (List Char) := table ["REPLACE"]

/-- Schemas of the server itself; blocked as qualifiers. -/
def systemSchemas : List (List Char) := table ["MYSQL", "SYS"]

/-- The beginnings of numbers written in another base. -/
def encodedNumberMarks : List (List Char) := table ["0X", "0B"]

/-- The words that make the literal after them an encoded one. -/
def encodedStringMarks : List (List Char) := table ["X", "B"]

/-- The word that begins every query. -/
def select : List Char := "SELECT".toList

end QueryGate.Gate.Keyword
