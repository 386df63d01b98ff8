import ChapterTex.Failure
import ChapterTex.Files.Tree
import ChapterTex.Settings
import ChapterTex.Text.Utf8.Decode

/-!
What a run of the program can see: files, standard input, and the environment.
-/
namespace ChapterTex

/-- Access to files. `isFile` takes a path as it is written. -/
structure Files where
  bytes? : Path → Option (List UInt8)
  /-- The names of the regular files in a directory. -/
  names? : Path → Option (List String)
  isFile : String → Bool

def Tree.files (t : Tree) : Files :=
  { bytes? := t.bytes?, names? := t.names?, isFile := t.isFileAt }

/-- A directory: the working directory by its own name, or the directory at a path. -/
inductive Directory where
  | working
  | at (p : Path)
deriving Repr, DecidableEq

def Directory.path : Directory → Path
  | working => Path.ofString "."
  | .at p => p

structure Workspace where
  files : Files
  input : List UInt8 := []
  env : Environment := {}
  /-- The full name of the working directory. -/
  workingName : String

namespace Workspace

/-- The path that stands for standard input. -/
def inputPath : Path := Path.ofString "-"

def textOf (bytes : List UInt8) : Except Failure String :=
  match Text.Utf8.decode bytes with
  | .ok s => .ok (String.ofList (Text.Utf8.unifyLineEnds s))
  | .error fault => .error (.undecodable fault)

/-- The text of the file at a path, or of standard input. -/
def read (w : Workspace) (p : Path) : Except Failure String :=
  if p = inputPath then textOf w.input
  else
    match w.files.bytes? p with
    | some bytes => textOf bytes
    | none => .error (.noSuchFile p.toText)

def nameOf (w : Workspace) : Directory → String
  | .working => w.workingName
  | .at p => p.toText

def list (w : Workspace) (d : Directory) : Except Failure (List String) :=
  match w.files.names? d.path with
  | some names => .ok names
  | none => .error (.noSuchDirectory (w.nameOf d))

end Workspace
end ChapterTex
