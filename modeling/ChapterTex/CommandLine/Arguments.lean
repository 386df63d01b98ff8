/-!
Command lines. Options may stand before and after the other arguments of a command, and may have
their value attached; everything behind `--` is an argument.
-/
namespace ChapterTex.CommandLine

/-- An option with its names. `key` tells what it sets. -/
structure Switch (α : Type) where
  key : α
  long : String
  short : Option Char := none
  takesValue : Bool := false

/-- The options that were found, in order, and the value of each that takes one. -/
abbrev Found (α : Type) := List (α × Option String)

variable {α : Type}

/-- Reads a group of short options. An option that takes a value takes the rest of the group, or
asks for the next argument. -/
def readShort (switches : List (Switch α)) : List Char → Option (Found α × Option α)
  | [] => some ([], none)
  | c :: rest => do
    let switch ← switches.find? fun s => s.short == some c
    if switch.takesValue then
      if rest.isEmpty then return ([], some switch.key)
      else return ([(switch.key, some (String.ofList rest))], none)
    else
      let (found, pending) ← readShort switches rest
      return ((switch.key, none) :: found, pending)

/-- Reads one argument that starts with a hyphen. Gives the options in it, and the one whose value
is the next argument; fails if there is no such option. -/
def readOption (switches : List (Switch α)) (arg : List Char) : Option (Found α × Option α) :=
  let name := arg.takeWhile (· != '=')
  let value := (arg.dropWhile (· != '=')).tail?.map String.ofList
  match switches.find? fun s => '-' :: '-' :: s.long.toList == name with
  | some switch =>
    if switch.takesValue then
      match value with
      | some v => some ([(switch.key, some v)], none)
      | none => some ([], some switch.key)
    else if value.isSome then none
    else some ([(switch.key, none)], none)
  | none => if ['-', '-'].isPrefixOf arg then none else readShort switches (arg.drop 1)

/-- Reads a command line: the options in it and the other arguments. If options may not stand
between arguments, reading ends at the first one. -/
def scan (switches : List (Switch α)) (between : Bool) :
    List String → Option (Found α × List String)
  | [] => some ([], [])
  | arg :: rest =>
    if arg == "--" then some ([], rest)
    else if ['-'].isPrefixOf arg.toList && arg != "-" then
      match readOption switches arg.toList, rest with
      | none, _ => none
      | some (found, none), rest =>
        (scan switches between rest).map fun (more, args) => (found ++ more, args)
      | some (_, some _), [] => none
      | some (found, some key), value :: rest =>
        (scan switches between rest).map fun (more, args) =>
          (found ++ (key, some value) :: more, args)
    else if between then
      (scan switches between rest).map fun (more, args) => (more, arg :: args)
    else some ([], arg :: rest)

/-- The value of an option. The last one counts. -/
def lastValue? [BEq α] (key : α) (found : Found α) : Option String :=
  (found.reverse.find? fun f => f.1 == key).bind Prod.snd

def has [BEq α] (key : α) (found : Found α) : Bool := found.any fun f => f.1 == key

inductive GlobalKey where
  | verbose
  | version
  | help
deriving Repr, DecidableEq

def globalSwitches : List (Switch GlobalKey) :=
  [{ key := .verbose, long := "verbose", short := some 'v' },
    { key := .version, long := "version" },
    { key := .help, long := "help" }]

inductive CommandKey where
  | chaptersDir
  | format
  | nostarch
  | help
deriving Repr, DecidableEq

def renderSwitches : List (Switch CommandKey) :=
  [{ key := .chaptersDir, long := "chapters-dir", short := some 'd', takesValue := true },
    { key := .format, long := "format", takesValue := true },
    { key := .nostarch, long := "nostarch" },
    { key := .help, long := "help" }]

def chaptersSwitches : List (Switch CommandKey) := [{ key := .help, long := "help" }]

inductive Command where
  | version
  | help
  | render (file : String) (chaptersDir : Option String) (format : String) (nostarch : Bool)
  | chapters (directory : Option String)
deriving Repr, DecidableEq

structure Invocation where
  command : Command
  verbose : Bool := false
deriving Repr, DecidableEq

/-- The answer of the program itself that an option asks for. The first such option counts. -/
def ownAnswer? : Found GlobalKey → Option Command
  | [] => none
  | (.version, _) :: _ => some .version
  | (.help, _) :: _ => some .help
  | (.verbose, _) :: rest => ownAnswer? rest

/-- An argument that is empty counts as absent. -/
def nonempty? (s : Option String) : Option String := s.filter (· != "")

/-- The command that arguments ask for, of which the first one is its name. -/
def command? : List String → Option Command
  | "render" :: args => do
    let (found, files) ← scan renderSwitches true args
    if has .help found then return .help
    let [file] := files | none
    return .render file (nonempty? (lastValue? .chaptersDir found))
      ((lastValue? .format found).getD "auto") (has .nostarch found)
  | "chapters" :: args => do
    let (found, directories) ← scan chaptersSwitches true args
    if has .help found then return .help
    guard (directories.length ≤ 1)
    return .chapters (nonempty? directories.head?)
  | args => do
    let (found, _) ← scan globalSwitches false args
    ownAnswer? found

/-- What a command line asks for, and nothing for one that is not understood. -/
def Invocation.ofArguments? (args : List String) : Option Invocation := do
  let (found, rest) ← scan globalSwitches false args
  match ownAnswer? found with
  | some command => return { command }
  | none => return { command := ← command? rest, verbose := has .verbose found }

end ChapterTex.CommandLine
