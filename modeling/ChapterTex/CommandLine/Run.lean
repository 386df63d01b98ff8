import ChapterTex.CommandLine.Arguments
import ChapterTex.CommandLine.Table
import ChapterTex.Conversion
import ChapterTex.Text.Control

/-!
Runs of the program. A run prints all of its result or nothing, and its exit code tells which. What
it writes goes to streams that are no terminals.
-/
namespace ChapterTex.CommandLine

inductive Outcome where
  /-- With a text on standard output. -/
  | printed (text : String)
  /-- With a page of help on standard output, whose text is left out. -/
  | helped
  /-- With a message on standard error. -/
  | refused (message : String)
  /-- Because the command line is not understood. -/
  | misused
  /-- Because of a document that has values of the wrong kind. -/
  | aborted (cause : Failure)
deriving Repr, DecidableEq

namespace Outcome

def exitCode : Outcome → Nat
  | .printed _ | .helped => 0
  | .refused _ | .aborted _ => 1
  | .misused => 2

/-- What is written to standard output, pages of help apart. -/
def output : Outcome → String
  | .printed text => text
  | _ => ""

/-- What is written to standard error, if the run ends as intended. -/
def error? : Outcome → Option String
  | .printed _ | .helped => some ""
  | .refused message => some message
  | _ => none

end Outcome

/-- The outcome of a run, and what it logs. -/
structure Run where
  outcome : Outcome
  log : List String := []
deriving Repr, DecidableEq

def versionText : String := "mdtex, version 0.1.0\n"

def line (text : String) : String := Text.withoutControls (text ++ "\n")

def errorLine (message : String) : String := line ("Error: " ++ message)

/-- The outcome for a document that could not be converted. Failures of rendering are failures of
values too, so they are told apart first. -/
def failed (file : String) (cause : Failure) : Outcome :=
  if cause.isNotFound then .refused (errorLine cause.message)
  else if cause.isRenderFailure then
    .refused (errorLine ("Cannot render " ++ file ++ " - " ++ cause.message))
  else if cause.isValueFailure then .refused (errorLine ("Invalid input - " ++ cause.message))
  else .aborted cause

def requestOf (file : String) (chaptersDir : Option String) (format : String) (nostarch : Bool) :
    Request :=
  { path := Path.ofString file
    chaptersDir := chaptersDir.map Path.ofString
    format
    capitals := nostarch }

/-- Renders a document. A regular file is not taken for a directory. -/
def render (w : Workspace) (file : String) (chaptersDir : Option String) (format : String)
    (nostarch : Bool) : Outcome :=
  if chaptersDir.any w.files.isFile || !Format.names.contains format then .misused
  else
    match convert w (requestOf file chaptersDir format nostarch) with
    | .ok text => .printed (line text)
    | .error cause => failed file cause

/-- The directory whose chapters are listed. -/
def listedDirectory (env : Environment) (directory : Option String) : Directory :=
  match directory with
  | some d => .at (Path.ofString d)
  | none =>
    match env.chaptersDir? none with
    | some p => .at p
    | none => .working

def chapters (w : Workspace) (directory : Option String) : Outcome :=
  if directory.any w.files.isFile then .misused
  else
    let d := listedDirectory w.env directory
    match w.chapters d with
    | .error cause => .refused (errorLine cause.message)
    | .ok registry =>
      if registry.slugs.isEmpty then .printed "No chapters found.\n"
      else .printed (table ("Chapters in " ++ w.nameOf d) registry.slugs)

def Command.execute (w : Workspace) : Command → Outcome
  | .version => .printed versionText
  | .help => .helped
  | .render file chaptersDir format nostarch =>
    CommandLine.render w file chaptersDir format nostarch
  | .chapters directory => CommandLine.chapters w directory

/-- What a command logs, if it does anything. -/
def Command.log (w : Workspace) : Command → List String
  | .version | .help => []
  | .render file chaptersDir format nostarch =>
    (requestOf file chaptersDir format nostarch).log w
  | .chapters directory => w.chaptersLog (listedDirectory w.env directory)

/-- A run with the given arguments. Only a run that is asked to logs what it does, and one that is
misused does nothing. -/
def run (w : Workspace) (args : List String) : Run :=
  match Invocation.ofArguments? args with
  | none => { outcome := .misused }
  | some { command, verbose } =>
    let outcome := command.execute w
    { outcome, log := if verbose && outcome != .misused then command.log w else [] }

end ChapterTex.CommandLine
