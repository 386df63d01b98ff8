import ChapterTex.Markdown.Source
import ChapterTex.Markdown.Token

/-!
The state of reading the text of a block: the place in the text, the tokens so far, and the plain
text that is not yet a token. Emphasis markers are tokens of their own until they are paired.
-/
namespace ChapterTex.Markdown.Inline

/-- An emphasis marker. `length` is the number of markers side by side, `partner` the place of the
marker that closes it. -/
structure Delimiter where
  marker : Char
  length : Nat
  token : Nat
  opens : Bool
  closes : Bool
  partner : Option Nat := none
deriving Repr, DecidableEq, Inhabited

structure State where
  src : Source
  pos : Nat := 0
  /-- The index before which the text ends. -/
  stop : Nat
  pending : Array Char := #[]
  tokens : Array Token := #[]
  /-- The markers of the innermost open link, or of the text itself. -/
  delimiters : Array Delimiter := #[]
  outer : List (Array Delimiter) := []
  /-- The markers of the links that are closed. -/
  closed : List (Array Delimiter) := []
  /-- The last place where a run of backticks of some length was seen. -/
  ticks : List (Nat × Nat) := []
  /-- Whether the text was searched for backticks to its end. -/
  ticksKnown : Bool := false
  /-- The place behind the construct at an index, if it was looked for, and zero otherwise. -/
  skipped : Array Nat
deriving Inhabited

namespace State

def ofSource (src : Source) : State :=
  { src, stop := src.size, skipped := Array.replicate (src.size + 2) 0 }

def current? (st : State) : Option Char := if st.pos < st.stop then st.src[st.pos]? else none

def flush (st : State) : State :=
  if st.pending.isEmpty then st
  else
    { st with
      tokens := st.tokens.push (Token.text (String.ofList st.pending.toList))
      pending := #[] }

/-- Adds a token. Markers inside a link are paired among themselves. -/
def push (st : State) (t : Token) : State :=
  let st := st.flush
  let st := { st with tokens := st.tokens.push t }
  match t.nesting with
  | .alone => st
  | .opening => { st with outer := st.delimiters :: st.outer, delimiters := #[] }
  | .closing =>
    { st with
      closed := st.delimiters :: st.closed
      delimiters := st.outer.head?.getD #[]
      outer := st.outer.drop 1 }

def addPending (st : State) (s : List Char) : State :=
  { st with pending := st.pending ++ s.toArray }

def advance (st : State) (pos : Nat) : State := { st with pos }

end State
end ChapterTex.Markdown.Inline
