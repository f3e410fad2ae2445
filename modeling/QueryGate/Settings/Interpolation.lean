import QueryGate.Settings.Variables

/-!
# References in values

The value of a variable in a file can refer to others, as `${NAME}` or, with a text for the case
that there is no such variable, as `${NAME:-text}`. Variables set earlier in the file come before
those of the environment.

## Main definitions

* `referenceAt?` — the reference that begins a text
* `interpolate` — a text with its references replaced
* `resolve` — the variables that some assignments make
-/

namespace QueryGate.Settings

/-- A reference to a variable, with the text that stands in for it, and the text that follows. -/
structure Reference where
  name : List Char
  default : List Char
  rest : List Char

/-- The reference that begins a text, if one does. -/
def referenceAt? : List Char → Option Reference
  | '$' :: '\x7b' :: text =>
    let inName (c : Char) : Bool := c != '\x7d' && c != ':'
    let name := text.takeWhile inName
    match text.dropWhile inName with
    | '\x7d' :: rest => some ⟨name, [], rest⟩
    | ':' :: '-' :: more =>
      match more.dropWhile (· != '\x7d') with
      | _ :: rest => some ⟨name, more.takeWhile (· != '\x7d'), rest⟩
      | [] => none
    | _ => none
  | _ => none

/-- The text that a reference stands for: the value of the variable, nothing if it has none, and the
default if there is no such variable. -/
def Reference.resolve (r : Reference) (vars : Variables) : List Char :=
  match vars.lookup r.name with
  | some value => value.getD []
  | none => r.default

/-- A text with its references replaced. -/
def interpolate (vars : Variables) (text : List Char) : List Char :=
  go (text.length + 1) text
where
  /-- Goes through a text in at most the given number of steps. -/
  go : Nat → List Char → List Char
    | 0, _ => []
    | steps + 1, text =>
      match referenceAt? text, text with
      | some reference, _ => reference.resolve vars ++ go steps reference.rest
      | none, [] => []
      | none, c :: rest => c :: go steps rest

/-- The variables that assignments make one after the other. Each value can refer to variables set
before it, or else to those of the environment. -/
def resolve (environment : Variables) (assignments : Variables) : Variables :=
  assignments.foldl
    (fun vars (name, value) => vars.put name (value.map (interpolate (vars ++ environment)))) []

end QueryGate.Settings
