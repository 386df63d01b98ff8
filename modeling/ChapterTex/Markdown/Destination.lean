import ChapterTex.Markdown.Entity
import ChapterTex.Markdown.Source
import ChapterTex.Text.Case

/-!
The parts of a link: its destination, its title, and the label under which a definition is found.
-/
namespace ChapterTex.Markdown

/-- The number of parentheses that may be open inside a destination. -/
def maxParentheses : Nat := 32

def angleEnd? (s : Source) (stop : Nat) : Nat → Nat → Option Nat
  | 0, _ => none
  | fuel + 1, i =>
    if stop ≤ i then none
    else
      match s[i]? with
      | some '\n' => none
      | some '<' => none
      | some '>' => some i
      | some '\\' => if i + 1 < stop then angleEnd? s stop fuel (i + 2) else none
      | _ => angleEnd? s stop fuel (i + 1)

/-- Finds the end of a destination without brackets, in which parentheses are balanced. -/
def bareEnd? (s : Source) (stop : Nat) : Nat → Nat → Nat → Option Nat
  | 0, _, _ => none
  | fuel + 1, depth, i =>
    let finish := if depth == 0 then some i else none
    if stop ≤ i then finish
    else
      match s[i]? with
      | none => finish
      | some c =>
        if c.toNat ≤ 0x20 || c.toNat == 0x7F then finish
        else if c == '\\' && decide (i + 1 < stop) then
          if s.has (i + 1) ' ' then finish else bareEnd? s stop fuel depth (i + 2)
        else if c == '(' then
          if depth < maxParentheses then bareEnd? s stop fuel (depth + 1) (i + 1) else none
        else if c == ')' then
          if depth == 0 then some i else bareEnd? s stop fuel (depth - 1) (i + 1)
        else bareEnd? s stop fuel depth (i + 1)

def destination? (s : Source) (start stop : Nat) : Option (List Char × Nat) :=
  if s.has start '<' then
    (angleEnd? s stop (s.size + 1) (start + 1)).map fun i =>
      (Entity.unescape (s.slice (start + 1) i), i + 1)
  else
    (bareEnd? s stop (s.size + 1) 0 start).bind fun i =>
      if i == start then none else some (Entity.unescape (s.slice start i), i)

def titleEnd? (s : Source) (close : Char) (stop : Nat) : Nat → Nat → Option Nat
  | 0, _ => none
  | fuel + 1, i =>
    if stop ≤ i then none
    else
      match s[i]? with
      | none => none
      | some c =>
        if c == close then some i
        else if c == '(' && close == ')' then none
        else if c == '\\' && decide (i + 1 < stop) then titleEnd? s close stop fuel (i + 2)
        else titleEnd? s close stop fuel (i + 1)

def title? (s : Source) (start stop : Nat) : Option (List Char × Nat) := do
  let opening ← if start < stop then s[start]? else none
  let close ← match opening with
    | '"' => some '"'
    | '\'' => some '\''
    | '(' => some ')'
    | _ => none
  let i ← titleEnd? s close stop (s.size + 1) (start + 1)
  return (Entity.unescape (s.slice (start + 1) i), i + 1)

/-- Runs of blanks as single spaces. `pending` tells that a blank came last. -/
def collapse (pending : Bool) : List Char → List Char
  | [] => []
  | c :: rest =>
    if Text.isBlank c then if pending then collapse true rest else ' ' :: collapse true rest
    else c :: collapse false rest

/-- The form under which labels are compared: trimmed, with single spaces, and without case. -/
def normalizeLabel (s : List Char) : String :=
  String.ofList ((collapse false (Text.trim s)).flatMap Text.foldCase)

structure Definition where
  address : String
  title : String
deriving Repr, DecidableEq

def isSpaceOrLineEnd (c : Char) : Bool := isSpace c || c == '\n'

end ChapterTex.Markdown
