/-!
# Paths and files

A command reads the files that its arguments name. A path is brought into its shortest form, in
which parts that step up stay as they are: whether they can be taken shows only on the way, since
every part but the last has to lead to a directory. A tree of files is kept as a list of entries;
what lies outside the tree is known to be a place and nothing more.

## Main definitions

* `plainPath` — the shortest form of a path
* `FileContent` — what a file holds
* `AccessError` — why a file cannot be read
* `FileTree` — the files below a working directory
* `FileTree.read` — what the file at a path holds
-/

namespace QueryGate.CommandLine

/-- The parts of a path, without empty ones and those that mean the place itself. -/
def pathParts (path : List Char) : List (List Char) :=
  (path.splitOn '/').filter fun part => !part.isEmpty && part != ['.']

/-- The slashes at the beginning of a path that are kept: none, one, or exactly two, which systems
may give a meaning of their own. -/
def root (path : List Char) : List Char :=
  match path.takeWhile (· == '/') with
  | [] => []
  | ['/', '/'] => ['/', '/']
  | _ => ['/']

/-- A path in its shortest form. -/
def plainPath (path : List Char) : List Char :=
  let plain := root path ++ ['/'].intercalate (pathParts path)
  if plain.isEmpty then ['.'] else plain

/-- What a file holds. -/
inductive FileContent where
  | text (chars : List Char)
  | bytes (content : List UInt8)

/-- Why a file cannot be read. -/
inductive AccessError where
  /-- Nothing stands at the path. -/
  | missing
  /-- The path leads through something that is not a directory. -/
  | notDirectory
  /-- A directory stands at the path. -/
  | isDirectory
  /-- A name on the path, or the path as a whole, is too long. -/
  | nameTooLong
  deriving Repr, DecidableEq

namespace AccessError

/-- The number under which systems report an error. -/
def code : AccessError → Nat
  | missing => 2
  | notDirectory => 20
  | isDirectory => 21
  | nameTooLong => 36

/-- The wording of an error. -/
def wording : AccessError → List Char
  | missing => "No such file or directory".toList
  | notDirectory => "Not a directory".toList
  | isDirectory => "Is a directory".toList
  | nameTooLong => "File name too long".toList

/-- The error reported under a number. -/
def ofCode? (n : Nat) : Option AccessError :=
  [missing, notDirectory, isDirectory, nameTooLong].find? fun error => error.code == n

end AccessError

/-- The files below a working directory by their paths; an entry without content is a directory, and
so is everything that other entries lie below. -/
abbrev FileTree := List (List (List Char) × Option FileContent)

namespace FileTree

/-- A place on the way along a path. -/
inductive Place where
  /-- A place in the tree, by the names that lead there, the last one first. -/
  | inside (names : List (List Char))
  /-- A directory above the tree. -/
  | outside
  deriving Repr, DecidableEq

/-- Whether a directory stands at a place of the tree. -/
def isDirectory (tree : FileTree) (path : List (List Char)) : Bool :=
  path.isEmpty || tree.any fun (name, content) =>
    path.isPrefixOf name && (content.isNone || path.length < name.length)

/-- The content of the file at a place of the tree. -/
def content? (tree : FileTree) (path : List (List Char)) : Option FileContent :=
  (tree.lookup path).join

/-- The number of bytes that a text takes. -/
def byteCount (text : List Char) : Nat :=
  (String.ofList text).utf8ByteSize

/-- A single name has at most 255 bytes, and a path at most 4095. -/
def nameLimit : Nat := 255

@[inherit_doc nameLimit]
def pathLimit : Nat := 4095

/-- The place reached from another by a part of a path. -/
def enter (tree : FileTree) (place : Place) (part : List Char) : Except AccessError Place :=
  let up := part == ['.', '.']
  match place with
  | .outside =>
    if up then .ok .outside
    else if nameLimit < byteCount part then .error .nameTooLong
    else .error .missing
  | .inside names =>
    if !tree.isDirectory names.reverse then .error .notDirectory
    else if up then .ok (if names.isEmpty then .outside else .inside names.tail)
    else if nameLimit < byteCount part then .error .nameTooLong
    else
      let path := (part :: names).reverse
      if tree.isDirectory path || (tree.content? path).isSome then .ok (.inside (part :: names))
      else .error .missing

/-- What the file at a path holds. -/
def read (tree : FileTree) (path : List Char) : Except AccessError FileContent := do
  if pathLimit < byteCount path then .error .nameTooLong
  let start := if (root path).isEmpty then Place.inside [] else .outside
  match ← (pathParts path).foldlM tree.enter start with
  | .outside => .error .isDirectory
  | .inside names =>
    if tree.isDirectory names.reverse then .error .isDirectory
    else
      match tree.content? names.reverse with
      | some content => .ok content
      | none => .error .missing

end FileTree

end QueryGate.CommandLine
