/-!
Records: named values in the order of their first writing. Writing a name again replaces its value
in place, so every name occurs once in a record built by `put`.
-/
namespace ChapterTex

/-- Named values, in the order in which the names were first written. -/
abbrev Record (α : Type _) := List (String × α)

namespace Record
variable {α : Type _}

def get? (r : Record α) (name : String) : Option α := r.lookup name

/-- Writes a value under a name. -/
def put (name : String) (value : α) : Record α → Record α
  | [] => [(name, value)]
  | (n, v) :: rest => if n == name then (n, value) :: rest else (n, v) :: put name value rest

/-- The record of a list of named values, of which the later ones win. -/
def ofList (entries : List (String × α)) : Record α :=
  entries.foldl (fun r e => r.put e.1 e.2) []

@[simp] theorem get?_nil (name : String) : get? ([] : Record α) name = none := rfl

theorem get?_cons (n : String) (v : α) (r : Record α) (name : String) :
    get? ((n, v) :: r) name = if name == n then some v else get? r name := by
  cases h : name == n <;> simp [get?, List.lookup_cons, h]

theorem get?_put (r : Record α) (name : String) (value : α) (query : String) :
    (r.put name value).get? query = if query == name then some value else r.get? query := by
  induction r with
  | nil => simp [put, get?_cons]
  | cons e r ih =>
    obtain ⟨n, v⟩ := e
    by_cases hn : n = name
    · subst hn
      by_cases hq : query = n <;> simp [put, get?_cons, hq]
    · by_cases hq : query = n
      · subst hq
        simp [put, get?_cons, hn]
      · simp [put, get?_cons, hn, hq, ih]

end Record
end ChapterTex
