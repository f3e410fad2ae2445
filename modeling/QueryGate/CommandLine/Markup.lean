import QueryGate.CommandLine.Outcome
import QueryGate.Text.CaseVariant
import QueryGate.Text.Spacing

/-!
# Marked-up text

What is shown to a user is written with tags in square brackets, which set a style until a closing
tag or the end of the text. Styles do not show in plain output, so a tag leaves nothing behind; but
a closing tag has to have something to close. A backslash protects a bracket.

## Main definitions

* `Markup.tagAt?` — the tag that begins a text, with the backslashes before it
* `Markup.pieces` — a text as a sequence of plain pieces and tags
* `Markup.shown?` — what remains of a text when it is shown
* `Markup.escape` — a text written so that its brackets are shown
* `Markup.terminal` — a terminal that shows text in this way
-/

namespace QueryGate.CommandLine.Markup

/-- A tag with the backslashes before it and the text after it. -/
structure TagAt where
  backslashes : Nat
  inside : List Char
  rest : List Char
  deriving Repr, DecidableEq

/-- Whether a tag can begin with a character. -/
def beginsTag (c : Char) : Bool :=
  c.isLower || c == '#' || c == '/' || c == '@'

/-- Whether a character can stand further inside a tag. -/
def insideTag (c : Char) : Bool :=
  c != '[' && c != ']'

/-- The tag that begins a text, possibly after backslashes. -/
def tagAt? (text : List Char) : Option TagAt :=
  match text.dropWhile (· == '\\') with
  | '[' :: c :: more =>
    match more.dropWhile insideTag with
    | ']' :: rest =>
      if beginsTag c then
        some ⟨(text.takeWhile (· == '\\')).length, c :: more.takeWhile insideTag, rest⟩
      else none
    | _ => none
  | _ => none

theorem length_rest_lt_of_tagAt? {text : List Char} {tag : TagAt}
    (h : tagAt? text = some tag) : tag.rest.length < text.length := by
  unfold tagAt? at h
  split at h
  · next c more heq =>
    split at h
    · next rest hmore =>
      split at h
      · have hbar := (List.dropWhile_suffix (l := text) (· == '\\')).length_le
        have hin := (List.dropWhile_suffix (l := more) insideTag).length_le
        simp only [Option.some.injEq] at h
        simp only [heq, hmore, List.length_cons] at hbar hin
        rw [← h]
        simp only
        omega
      · simp at h
    · simp at h
  · simp at h

/-- A piece of a marked-up text. -/
inductive Piece where
  /-- Text between tags. -/
  | run (text : List Char)
  /-- Backslashes, or a protected tag. -/
  | kept (text : List Char)
  | opening (name : List Char)
  /-- A closing tag; without a name it closes the last one opened. -/
  | closing (name : List Char)
  deriving Repr, DecidableEq

/-- The pieces that a tag stands for. Two backslashes before it are one that is shown; an odd one
protects the tag. What follows an equality sign inside the tag is not part of its name. -/
def TagAt.pieces (tag : TagAt) : List Piece :=
  let shown := tag.backslashes / 2
  let bars := if shown = 0 then [] else [Piece.kept (List.replicate shown '\\')]
  if tag.backslashes % 2 = 1 then bars ++ [.kept ('[' :: tag.inside ++ [']'])]
  else
    match tag.inside.takeWhile (· != '=') with
    | '/' :: name => bars ++ [.closing (Text.trim name)]
    | name => bars ++ [.opening name]

/-- Puts a character in front of the pieces; it joins a run that comes first. -/
def consRun (c : Char) : List Piece → List Piece
  | .run text :: rest => .run (c :: text) :: rest
  | pieces => .run [c] :: pieces

/-- The pieces of a marked-up text. -/
def pieces (text : List Char) : List Piece :=
  match _h : tagAt? text with
  | some tag => tag.pieces ++ pieces tag.rest
  | none =>
    match text with
    | [] => []
    | c :: rest => consRun c (pieces rest)
termination_by text.length
decreasing_by
  · exact length_rest_lt_of_tagAt? _h
  · simp

/-- The attributes that a style can have, with their short names, in the order in which they are
listed. -/
def attributes : List (String × List String) :=
  [("bold", ["b"]), ("dim", ["d"]), ("italic", ["i"]), ("underline", ["u"]), ("blink", []),
   ("blink2", []), ("reverse", ["r"]), ("conceal", ["c"]), ("strike", ["s"]),
   ("underline2", ["uu"]), ("frame", []), ("encircle", []), ("overline", ["o"])]

/-- The full name of an attribute. -/
def attribute? (word : List Char) : Option String :=
  (attributes.find? fun (name, short) => (name :: short).any (·.toList == word)).map Prod.fst

/-- The words of a style, separated by white space. -/
def styleWords (style : List Char) : List (List Char) :=
  (Text.normalize style).splitOn ' '

/-- The name under which a style is opened and closed. Attributes can be given by their short names
and in any order; other styles are taken as they are written, but in small letters. -/
def styleName (style : List Char) : List Char :=
  match (styleWords (Text.lowerText style)).mapM attribute? with
  | some given =>
    [' '].intercalate (((attributes.map Prod.fst).filter given.contains).map String.toList)
  | none => Text.lowerText (Text.trim style)

/-- The open styles after a closing tag, the last one opened first; nothing if there is none to
close. -/
def close? (name : List Char) (styles : List (List Char)) : Option (List (List Char)) :=
  if name.isEmpty then
    if styles.isEmpty then none else some styles.tail
  else
    let name := styleName name
    if styles.contains name then some (styles.erase name) else none

/-- A text with each protected opening bracket as a bracket. -/
def unprotect : List Char → List Char
  | '\\' :: '[' :: rest => '[' :: unprotect rest
  | c :: rest => c :: unprotect rest
  | [] => []

/-- What is shown of some pieces, given the open styles. -/
def piecesShown? (styles : List (List Char)) : List Piece → Option (List Char)
  | [] => some []
  | .run text :: rest | .kept text :: rest =>
    (piecesShown? styles rest).map (unprotect text ++ ·)
  | .opening name :: rest => piecesShown? (styleName name :: styles) rest
  | .closing name :: rest => do piecesShown? (← close? name styles) rest

/-- Whether a character is a control that is never shown: the bell, the backspace, the vertical tab,
the form feed and the carriage return. -/
def isHidden (c : Char) : Bool :=
  c == '\x07' || c == '\x08' || c == '\x0b' || c == '\x0c' || c == '\r'

/-- What remains of a marked-up text when it is shown; nothing if a closing tag has nothing to
close. -/
def shown? (text : List Char) : Option (List Char) :=
  (piecesShown? [] (pieces text)).map (·.filter (!isHidden ·))

/-- A text with every tag in it protected. -/
def protectTags (text : List Char) : List Char :=
  match _h : tagAt? text with
  | some tag =>
    List.replicate (2 * tag.backslashes + 1) '\\' ++ '[' :: tag.inside ++ ']' ::
      protectTags tag.rest
  | none =>
    match text with
    | [] => []
    | c :: rest => c :: protectTags rest
termination_by text.length
decreasing_by
  · exact length_rest_lt_of_tagAt? _h
  · simp

/-- A text written so that its tags are shown. A single backslash at the end is doubled, so that it
protects nothing that follows. -/
def escape (text : List Char) : List Char :=
  let written := protectTags text
  match written.reverse with
  | ['\\'] => written ++ ['\\']
  | '\\' :: c :: _ => if c == '\\' then written else written ++ ['\\']
  | _ => written

/-- A terminal without colours, which shows all else as it is written. -/
def terminal : Terminal where
  escape
  shown?

end QueryGate.CommandLine.Markup
