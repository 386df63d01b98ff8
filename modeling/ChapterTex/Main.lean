import ChapterTex.CommandLine.Run

/-!
The program. It reads what its command line asks for, and writes what the run prints. The words
about a misuse or an abort and the times of log messages are left out.
-/
open ChapterTex ChapterTex.CommandLine

/-- The paths that a command looks at. -/
def ChapterTex.CommandLine.Command.paths : Command → List String
  | .version | .help => []
  | .render file chaptersDir _ _ => file :: (Path.ofString file).parent.toText :: chaptersDir.toList
  | .chapters directory => directory.toList

/-- The bytes of the file with the given name, if it is one. -/
def readBytes? (name : String) : IO (Option (List UInt8)) := do
  try return some (← IO.FS.readBinFile ((← IO.currentDir) / name)).toList
  catch _ => return none

/-- The names of the files in the directory with the given name, if it is one. -/
def readNames? (name : String) : IO (Option (List String)) := do
  try
    let entries ← ((← IO.currentDir) / name).readDir
    let files ← entries.filterM fun entry => return !(← entry.path.isDir)
    return some (files.toList.map fun entry => entry.fileName)
  catch _ => return none

/-- All bytes of a stream. -/
partial def readAll (stream : IO.FS.Stream) (bytes : ByteArray := .empty) : IO ByteArray := do
  let more ← stream.read 65536
  if more.isEmpty then return bytes else readAll stream (bytes ++ more)

/-- Access to files whose bytes and names were read before. -/
def filesRead (bytes : List (String × List UInt8)) (names : List (String × List String)) : Files :=
  { bytes? := fun p => bytes.lookup p.toText
    names? := fun p => names.lookup p.toText
    isFile := fun name => (bytes.lookup name).isSome }

def readWorkspace (command : Command) : IO Workspace := do
  let env : Environment :=
    { chaptersDir := ← IO.getEnv Environment.chaptersDirName
      figureWidth := ← IO.getEnv Environment.figureWidthName }
  let given := "." :: command.paths ++ env.chaptersDir.toList
  let all := given ++ given.map fun name => (Path.ofString name).toText
  let bytes ← all.filterMapM fun name => return (← readBytes? name).map (Prod.mk name)
  let names ← all.filterMapM fun name => return (← readNames? name).map (Prod.mk name)
  let input ← match command with
    | .render "-" _ _ _ | .render "./-" _ _ _ => readAll (← IO.getStdin)
    | _ => pure .empty
  return {
    files := filesRead bytes names
    input := input.toList
    env
    workingName := toString (← IO.currentDir) }

def main (args : List String) : IO UInt32 := do
  let command := match Invocation.ofArguments? args with
    | some invocation => invocation.command
    | none => .help
  let run := CommandLine.run (← readWorkspace command) args
  for line in run.log do IO.eprintln line
  match run.outcome with
  | .printed text => IO.print text
  | .refused message => IO.eprint message
  | .helped | .misused | .aborted _ => pure ()
  return run.outcome.exitCode.toUInt32
