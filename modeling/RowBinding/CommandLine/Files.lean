import RowBinding.Text.Pieces

/-!
# Files

A tree of directories and files, and the directory in which the program works. A path is cut at
slashes and followed name by name, from the root directory if it starts with a slash and from the
working directory otherwise. Every directory on the way must exist. Empty names and single dots
stay where they are, and two dots lead to the directory above.

A file can be written where its directory exists and no directory has its name. The system may
still refuse to read or to write a file, and says in its own words why a path cannot be opened.
There are no links.
-/
namespace RowBinding.CommandLine
open Text

/-- The names that lead from the root directory to a file or a directory. -/
abbrev Place := List String

inductive Node where
  | file (bytes : ByteArray)
  | directory (entries : List (String × Node))

/-- What a directory holds, under names. -/
abbrev Entries := List (String × Node)

/-- The bytes of a file; a directory has none. -/
def Node.bytes? : Node → Option ByteArray
  | .file bytes => some bytes
  | .directory _ => none

/-- The node at the end of a row of names. -/
def Node.find? : Place → Node → Option Node
  | [], node => some node
  | _ :: _, .file _ => none
  | name :: place, .directory entries => (entries.lookup name).bind (Node.find? place)

namespace Entries

/-- The entries with a node under a name, in place of the one that was there. -/
def set (name : String) (node : Node) : Entries → Entries
  | [] => [(name, node)]
  | (n, old) :: entries =>
    if n = name then (n, node) :: entries else (n, old) :: set name node entries

/-- The entries with a file at a place, which is new or replaces the one that was there. -/
def put? (bytes : ByteArray) : Place → Entries → Option Entries
  | [], _ => none
  | name :: place, entries =>
    match entries.lookup name with
    | some (.directory inner) =>
      (put? bytes place inner).map fun inner' => set name (.directory inner') entries
    | _ => if place.isEmpty then some (set name (.file bytes) entries) else none

end Entries

/-- Where a name leads from a directory. -/
def Place.step (here : Place) (name : String) : Place :=
  if name = "" ∨ name = "." then here
  else if name = ".." then here.dropLast
  else here ++ [name]

inductive Access where
  | read
  | write
deriving DecidableEq, Repr

structure Files where
  /-- What the root directory holds. -/
  root : Entries := []
  /-- The directory in which the program works. -/
  directory : Place := []
  /-- Whether the system lets a file be read or written. -/
  permits : Access → Place → Bool := fun _ _ => true
  /-- What the system says when a path cannot be opened. -/
  complaint : Access → String → String := fun _ _ => ""

namespace Files

/-- What is at a place. -/
def node? (files : Files) (place : Place) : Option Node :=
  Node.find? place (.directory files.root)

def isDirectory (files : Files) (place : Place) : Bool :=
  match files.node? place with
  | some (.directory _) => true
  | _ => false

/-- The bytes of the file at a place, if there is one. -/
def get? (files : Files) (place : Place) : Option ByteArray :=
  (files.node? place).bind Node.bytes?

/-- Where names lead from a place, if there is a directory before each of them. -/
def walk (files : Files) (here : Place) : List String → Option Place
  | [] => some here
  | name :: names => if files.isDirectory here then walk files (here.step name) names else none

/-- Where a path leads, if all the directories on the way exist. -/
def locate (files : Files) (path : String) : Option Place :=
  let names := (pieces (· == '/') path.toList).map String.ofList
  files.walk (if path.toList.head? = some '/' then [] else files.directory) names

def read? (files : Files) (path : String) : Option ByteArray := do
  let place ← files.locate path
  if files.permits .read place then files.get? place else none

/-- The files after a text has been written at a path, if it can be. -/
def write? (files : Files) (path text : String) : Option Files := do
  let place ← files.locate path
  if files.permits .write place then
    let entries ← files.root.put? text.toUTF8 place
    return { files with root := entries }
  else none

/-- The bytes of the file at a path, or what the system says instead. -/
def read (files : Files) (path : String) : Except String ByteArray :=
  match files.read? path with
  | some bytes => .ok bytes
  | none => .error (files.complaint .read path)

/-- The files after a text has been written at a path, or what the system says instead. -/
def write (files : Files) (path text : String) : Except String Files :=
  match files.write? path text with
  | some written => .ok written
  | none => .error (files.complaint .write path)

end Files

end RowBinding.CommandLine
