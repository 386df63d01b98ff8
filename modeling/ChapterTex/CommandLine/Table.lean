import ChapterTex.Text.Blank
import ChapterTex.Text.Pieces
import ChapterTex.Text.Width

/-!
The table of chapters: a title, and a row with number and label for every chapter. Columns are as
wide as their widest cell, but the table is no wider than a terminal; labels that do not fit go over
several lines.
-/
namespace ChapterTex.CommandLine

def terminalWidth : Nat := 80

/-- Words with the blanks behind them. `fuel` is at least the length. -/
def wordsWithBlanks : Nat → List Char → List (List Char)
  | 0, _ => []
  | _, [] => []
  | fuel + 1, c :: rest =>
    let word := c :: (rest.takeWhile fun d => !Text.isBlank d)
    let tail := rest.dropWhile fun d => !Text.isBlank d
    (word ++ tail.takeWhile Text.isBlank) :: wordsWithBlanks fuel (tail.dropWhile Text.isBlank)

/-- Pieces of a text that are no wider than the given width. `current` is the piece so far. -/
def chop (width : Nat) (current : List Char) : List Char → List (List Char)
  | [] => [current]
  | c :: rest =>
    if width < Text.width current + Text.columns c then current :: chop width [c] rest
    else chop width (current ++ [c]) rest

/-- Lines of words that are no wider than the given width. A word that is wider starts on a line of
its own and goes over several. -/
def wrapFrom (width : Nat) (current : List Char) : List (List Char) → List (List Char)
  | [] => [current]
  | word :: rest =>
    let length := Text.width (Text.trimEnd word)
    if Text.width current + length ≤ width then wrapFrom width (current ++ word) rest
    else
      let before := if current.isEmpty then [] else [current]
      if width < length then
        let pieces := chop width [] word
        before ++ pieces.dropLast ++ wrapFrom width (pieces.getLast?.getD []) rest
      else before ++ wrapFrom width word rest

def wrap (width : Nat) (s : List Char) : List (List Char) :=
  (wrapFrom width [] (wordsWithBlanks s.length s)).map Text.trimEnd

/-- A line in the middle of the given width. An odd space is on the right. -/
def centre (width : Nat) (s : List Char) : List Char :=
  let space := width - Text.width s
  List.replicate (space / 2) ' ' ++ s ++ List.replicate (space - space / 2) ' '

def padLeft (width : Nat) (s : List Char) : List Char :=
  List.replicate (width - Text.width s) ' ' ++ s

def padRight (width : Nat) (s : List Char) : List Char :=
  s ++ List.replicate (width - Text.width s) ' '

structure Columns where
  number : Nat
  label : Nat
deriving Repr, DecidableEq

/-- The width of a row besides its cells: three lines, and a blank on either side of each cell. -/
def frameWidth : Nat := 7

def Columns.total (w : Columns) : Nat := w.number + w.label + frameWidth

def widest (cells : List (List Char)) : Nat := cells.foldl (fun n s => max n (Text.width s)) 0

/-- A line of the frame: a left end, a middle, a right end, and what is in between. -/
def ruler (w : Columns) (left middle right line : Char) : List Char :=
  left :: List.replicate (w.number + 2) line ++
    middle :: List.replicate (w.label + 2) line ++ [right]

def rowLine (w : Columns) (bar : Char) (number label : List Char) : List Char :=
  bar :: ' ' :: padLeft w.number number ++ ' ' :: bar :: ' ' :: padRight w.label label ++ [' ', bar]

/-- The lines of a row. The number stands in the first one. -/
def rowLines (w : Columns) (number label : List Char) : List (List Char) :=
  match chop w.label [] label with
  | [] => []
  | first :: more => rowLine w '│' number first :: more.map (rowLine w '│' [])

def numberHeader : List Char := "Number".toList

def labelHeader : List Char := "Label".toList

def columnsOf (numbers labels : List (List Char)) : Columns :=
  let number := widest (numberHeader :: numbers)
  { number, label := min (widest (labelHeader :: labels)) (terminalWidth - frameWidth - number) }

/-- The lines of a table. Chapters are numbered from zero. -/
def tableLines (title : List Char) (labels : List (List Char)) : List (List Char) :=
  let numbers := (List.range labels.length).map fun k => (toString k).toList
  let w := columnsOf numbers labels
  ((Text.pieces '\n' title).flatMap (wrap w.total)).map (centre w.total)
    ++ [ruler w '┏' '┳' '┓' '━', rowLine w '┃' numberHeader labelHeader, ruler w '┡' '╇' '┩' '━']
    ++ (List.zipWith (rowLines w) numbers labels).flatten
    ++ [ruler w '└' '┴' '┘' '─']

def table (title : String) (labels : List String) : String :=
  String.ofList
    ((tableLines title.toList (labels.map String.toList)).flatMap fun line => line ++ ['\n'])

end ChapterTex.CommandLine
