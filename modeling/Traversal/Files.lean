/-! Files: reading texts by path. What a path leads to is a function, so that a program over files
is itself a function of their contents. -/
namespace Traversal

/-- Why a path gives no text. -/
inductive Fault
  | missing
  | notDirectory
  | isDirectory
  | nameTooLong
  | nullInName
  | notText
  | other (reason : String)
  deriving Repr, DecidableEq

/-- The system's message about a fault. -/
def Fault.message : Fault → String
  | .missing => "No such file or directory (os error 2)"
  | .notDirectory => "Not a directory (os error 20)"
  | .isDirectory => "Is a directory (os error 21)"
  | .nameTooLong => "File name too long (os error 36)"
  | .nullInName => "file name contained an unexpected NUL byte"
  | .notText => "stream did not contain valid UTF-8"
  | .other reason => reason

/-- The bytes to which paths lead. -/
abbrev Files := String → Except Fault ByteArray

namespace Path

/-- The parts of a text between slashes; `part` holds what has been passed of the current one, the
last character first. -/
def split (part : List Char) : List Char → List (List Char)
  | [] => [part.reverse]
  | c :: rest => if c = '/' then part.reverse :: split [] rest else split (c :: part) rest

/-- The parts of a path. -/
def parts (path : String) : List (List Char) := split [] path.toList

/-- Whether a part of a path stays where it is. -/
def staysPut (part : List Char) : Bool := part == [] || part == ['.']

/-- The names that a path goes through. -/
def names (path : String) : List (List Char) := (parts path).filter (!staysPut ·)

/-- The part of a path that leads a directory up. -/
def parent : List Char := ['.', '.']

/-- The part of a path's last name behind its last dot. A name whose only dot stands at its start
has none. -/
def extension (path : String) : Option String :=
  match (names path).getLast? with
  | none => none
  | some name =>
    let tail := name.reverse.takeWhile (· != '.')
    if name = parent || name.length ≤ tail.length + 1 then none
    else some (String.ofList tail.reverse)

/-- The greatest size of a name in a directory. -/
def maxNameSize : Nat := 255

/-- The greatest size of a path. -/
def maxSize : Nat := 4095

end Path

namespace Files

/-- What a name in a directory stands for. -/
inductive Entry
  | file (bytes : ByteArray)
  | directory

/-- A tree of files below the current directory, by the names that lead to them. A directory need
not be listed if something in it is. -/
abbrev Tree := List (List (List Char) × Entry)

/-- Where names lead in a tree, if they lead anywhere. -/
def Tree.entry (tree : Tree) (names : List (List Char)) : Option Entry :=
  match tree.lookup names with
  | some entry => some entry
  | none => if names = [] || tree.any (names.isPrefixOf ·.1) then some .directory else none

/-- Where a path has led so far: to a place in the tree, or to a directory around the tree, in which
nothing is known. -/
inductive Place
  | inside (names : List (List Char)) (entry : Entry)
  | around

/-- One part of a path. Only a directory leads on, be it to itself. -/
def Place.step (tree : Tree) (place : Place) (part : List Char) : Except Fault Place :=
  match place with
  | .inside _ (.file _) => .error .notDirectory
  | .inside names .directory =>
    if Path.staysPut part then .ok place
    else if part = Path.parent then
      .ok (if names.isEmpty then .around else .inside names.dropLast .directory)
    else if Path.maxNameSize < (String.ofList part).utf8ByteSize then .error .nameTooLong
    else match tree.entry (names ++ [part]) with
      | some entry => .ok (.inside (names ++ [part]) entry)
      | none => .error .missing
  | .around =>
    if Path.staysPut part || part = Path.parent then .ok .around
    else if Path.maxNameSize < (String.ofList part).utf8ByteSize then .error .nameTooLong
    else .error .missing

/-- Where a path leads. A path that begins with a slash begins outside the tree. -/
def Tree.follow (tree : Tree) (path : String) : Except Fault Place :=
  if path.isEmpty then .error .missing
  else if Path.maxSize < path.utf8ByteSize then .error .nameTooLong
  else
    let start : Place := if path.toList.head? = some '/' then .around else .inside [] .directory
    (Path.parts path).foldlM (Place.step tree) start

/-- The files with given paths below the current directory. -/
def ofEntries (entries : List (String × Entry)) : Files := fun path =>
  let tree : Tree := entries.map fun (path, entry) => (Path.names path, entry)
  if path.toList.contains '\x00' then .error .nullInName
  else match tree.follow path with
    | .error fault => .error fault
    | .ok (.inside _ (.file bytes)) => .ok bytes
    | .ok _ => .error .isDirectory

/-- The text to which a path leads. -/
def readText (files : Files) (path : String) : Except Fault String :=
  match files path with
  | .error fault => .error fault
  | .ok bytes =>
    match String.fromUTF8? bytes with
    | some text => .ok text
    | none => .error .notText

end Files

end Traversal
