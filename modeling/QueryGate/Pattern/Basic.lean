import QueryGate.Pattern.Matching
import QueryGate.Pattern.Reader

/-!
# Patterns

A pattern decides which texts are allowed. Most are regular expressions that can be read here. What
an expression in another form means is left to the engine at hand; and a program that embeds the
gate can bring a matcher of its own.

## Main definitions

* `Pattern` — a regular expression ready for use, or another matcher
* `Pattern.Engine` — what becomes of expressions that are not read here
* `Pattern.compile` — the pattern of a written regular expression
* `Pattern.text` — how a pattern is shown
* `Pattern.accepts` — whether a pattern allows a text
-/

namespace QueryGate

/-- A rule for allowed texts. -/
inductive Pattern where
  /-- A regular expression with its written form. -/
  | expression (source : List Char) (ignoreCase : Bool) (meaning : Pattern.Expression)
  /-- Another matcher, with a label under which it is listed. -/
  | custom (label : List Char) (allows : List Char → Bool)

namespace Pattern

/-- A matcher that allows one text only. -/
def exactly (label only : List Char) : Pattern :=
  custom label (only == ·)

/-- What becomes of regular expressions in forms that are not read here. -/
class Engine where
  /-- The texts that such an expression matches as a whole, or what is wrong with it. -/
  matcher (source : List Char) (ignoreCase : Bool) : Except ReadError (List Char → Bool)

/-- An engine that knows no further forms. -/
@[reducible] def Engine.plain : Engine where
  matcher _ _ := .error .beyond

/-- The pattern of a written regular expression. -/
def compile [Engine] (source : List Char) (ignoreCase : Bool) : Except ReadError Pattern :=
  match readExpression source with
  | .ok meaning => .ok (expression source ignoreCase meaning)
  | .error .beyond => (Engine.matcher source ignoreCase).map (custom source)
  | .error error => .error error

/-- The text under which a pattern is listed. -/
def text : Pattern → List Char
  | expression source _ _ => source
  | custom label _ => label

/-- Whether a pattern allows a text as a whole. -/
def accepts : Pattern → List Char → Bool
  | expression _ ignoreCase meaning, text => meaning.matchesAll ignoreCase text
  | custom _ allows, text => allows text

end Pattern

end QueryGate
