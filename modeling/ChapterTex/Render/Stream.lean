import ChapterTex.Render.Basic

/-!
Streams with elements that are not tokens. Such an element has no rule, so rendering stops at it.
-/
namespace ChapterTex

/-- An element of a stream: a token, or something else that only shows a kind. -/
inductive StreamItem where
  | token (t : Token)
  | foreign (kind : String)

namespace StreamItem

def token? : StreamItem → Option Token
  | token t => some t
  | foreign _ => none

end StreamItem

namespace Renderer

def step (r : Renderer) (item : StreamItem) (next : Option Token) (c : Context) : Rendered :=
  match item with
  | .token t => r.renderToken t next c
  | .foreign kind => .error (.unknownToken kind)

/-- The outcomes of the steps of a run, up to the first that fails. -/
def trace (r : Renderer) : List StreamItem → Context → List Rendered
  | [], _ => []
  | item :: rest, c =>
    let outcome := r.step item (rest.head?.bind StreamItem.token?) c
    match outcome with
    | .error _ => [outcome]
    | .ok (_, c) => outcome :: r.trace rest c

/-- The text of a stream of any elements. -/
def renderItems (r : Renderer) (items : List StreamItem) : Except Failure String := do
  let steps ← (r.trace items {}).mapM id
  join (steps.map Prod.fst)

end Renderer
end ChapterTex
