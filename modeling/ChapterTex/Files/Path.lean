import ChapterTex.Text.Pieces

/-!
Paths. A path is a root, which may be empty, and the names below it. Empty names and `.` leave no
trace; `..` is a name like any other.
-/
namespace ChapterTex

/-- A path in normal form. -/
structure Path where
  root : String
  names : List String
deriving Repr, DecidableEq

namespace Path

/-- The path that a text denotes. Exactly two leading slashes are a root of their own. -/
def ofString (s : String) : Path :=
  let slashes := (s.toList.takeWhile (· == '/')).length
  { root := if slashes == 0 then "" else if slashes == 2 then "//" else "/"
    names := ((Text.pieces '/' s.toList).map String.ofList).filter fun name =>
      name != "" && name != "." }

def toText (p : Path) : String :=
  if p.root == "" && p.names.isEmpty then "." else p.root ++ "/".intercalate p.names

def name (p : Path) : String := p.names.getLast?.getD ""

def parent (p : Path) : Path := { p with names := p.names.dropLast }

/-- What follows the last point of a name, with the point. A name that starts or ends with its last
point has no suffix. -/
def suffixOf (name : List Char) : List Char :=
  let tail := (name.reverse.takeWhile (· != '.')).reverse
  if tail.isEmpty || decide (name.length ≤ tail.length + 1) then [] else '.' :: tail

def suffix (p : Path) : String := String.ofList (suffixOf p.name.toList)

end Path
end ChapterTex
