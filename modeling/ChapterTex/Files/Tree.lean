import ChapterTex.Files.Path
import ChapterTex.Record

/-!
Directory trees. Paths are looked up from the top of the tree; what lies above the top is taken for
an empty directory.
-/
namespace ChapterTex

/-- A regular file with its bytes, or a directory. -/
inductive Node where
  | file (bytes : List UInt8)
  | dir (entries : List (String × Node))
deriving Inhabited

/-- The entries of the top directory. -/
abbrev Tree := List (String × Node)

namespace Node

def bytes? : Node → Option (List UInt8)
  | file bytes => some bytes
  | dir _ => none

def entries? : Node → Option (List (String × Node))
  | file _ => none
  | dir entries => some entries

def isFile (n : Node) : Bool := n.bytes?.isSome

end Node

namespace Tree

/-- The node that is reached over names from a node, below the given directories. -/
def walk : List String → List Node → Node → Option Node
  | [], _, n => some n
  | name :: rest, up, n => do
    let entries ← n.entries?
    if name == "" || name == "." then walk rest up n
    else if name == ".." then
      match up with
      | [] => walk rest [] (.dir [])
      | p :: up => walk rest up p
    else walk rest (n :: up) (← Record.get? entries name)

/-- The node at a path. Absolute paths lead out of the tree. -/
def node? (t : Tree) (p : Path) : Option Node :=
  walk p.names [] (.dir (if p.root == "" then t else []))

def bytes? (t : Tree) (p : Path) : Option (List UInt8) := (t.node? p).bind Node.bytes?

def fileNames (entries : List (String × Node)) : List String :=
  (entries.filter fun e => e.2.isFile).map Prod.fst

/-- The names of the regular files in the directory at a path. -/
def names? (t : Tree) (p : Path) : Option (List String) :=
  ((t.node? p).bind Node.entries?).map fileNames

/-- Whether a path as it is written leads to a regular file. Behind a file there is nothing, not
even behind a slash. -/
def isFileAt (t : Tree) (path : String) : Bool :=
  path != "" && ((walk ((Text.pieces '/' path.toList).map String.ofList) []
    (.dir (if ['/'].isPrefixOf path.toList then [] else t))).any Node.isFile)

/-- Puts a node at a place. Directories on the way are made where there are none. -/
def put (n : Node) : List String → Tree → Tree
  | [], t => t
  | [name], t => Record.put name n t
  | name :: rest, t =>
    let below := ((Record.get? t name).bind Node.entries?).getD []
    Record.put name (.dir (put n rest below)) t

def write (t : Tree) (p : Path) (bytes : List UInt8) : Tree := put (.file bytes) p.names t

def makeDir (t : Tree) (p : Path) : Tree :=
  if (t.node? p).isSome then t else put (.dir []) p.names t

def remove : List String → Tree → Tree
  | [], t => t
  | [name], t => t.filter fun e => e.1 != name
  | name :: rest, t =>
    match (Record.get? t name).bind Node.entries? with
    | some entries => Record.put name (.dir (remove rest entries)) t
    | none => t

def delete (t : Tree) (p : Path) : Tree := remove p.names t

end Tree
end ChapterTex
