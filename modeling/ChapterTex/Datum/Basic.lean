import ChapterTex.Record

/-!
Untyped values. A serialized token may hold any value in any field, so fields are read through tests
on values rather than through types of their own.
-/
namespace ChapterTex

/-- A value of a serialized document. `latex` is text that is already escaped. -/
inductive Datum where
  | null
  | bool (b : Bool)
  | int (n : Int)
  | float (x : Float)
  | text (s : String)
  | latex (s : String)
  | list (items : List Datum)
  | tuple (items : List Datum)
  | dict (fields : List (String × Datum))
deriving Inhabited

namespace Datum

/-- Zero, `false`, `null` and everything empty count as absent. -/
def truthy : Datum → Bool
  | null => false
  | bool b => b
  | int n => n != 0
  | float x => x != 0
  | text s | latex s => s != ""
  | list items | tuple items => !items.isEmpty
  | dict fields => !fields.isEmpty

/-- The value, or the given one in place of an absent one. -/
def orElse (d default : Datum) : Datum := if d.truthy then d else default

def text? : Datum → Option String
  | text s | latex s => some s
  | _ => none

/-- The items of a value that can be gone through: those of a sequence, the characters of a text,
the names of a record. -/
def items? : Datum → Option (List Datum)
  | list items | tuple items => some items
  | text s | latex s => some (s.toList.map fun c => text (String.singleton c))
  | dict fields => some (fields.map fun f => text f.1)
  | _ => none

mutual

/-- Whether the value can be a key. Lists and records cannot, and neither can tuples that hold
them. -/
def isKey : Datum → Bool
  | list _ | dict _ => false
  | tuple items => allKeys items
  | _ => true

def allKeys : List Datum → Bool
  | [] => true
  | d :: rest => isKey d && allKeys rest

end

def field? (fields : Record Datum) (name : String) : Datum := (fields.get? name).getD null

@[simp] theorem truthy_text (s : String) : (text s).truthy = (s != "") := rfl

@[simp] theorem text?_text (s : String) : (text s).text? = some s := rfl

@[simp] theorem text?_latex (s : String) : (latex s).text? = some s := rfl

theorem text?_eq_some_iff {d : Datum} {s : String} :
    d.text? = some s ↔ d = .text s ∨ d = .latex s := by
  cases d <;> simp [text?]

theorem orElse_of_truthy {d : Datum} (h : d.truthy = true) (default : Datum) :
    d.orElse default = d := by
  simp [orElse, h]

theorem orElse_of_not_truthy {d : Datum} (h : d.truthy = false) (default : Datum) :
    d.orElse default = default := by
  simp [orElse, h]

@[simp] theorem orElse_text_empty (s : String) : (text s).orElse (text "") = text s := by
  by_cases h : s = ""
  · subst h
    rfl
  · exact orElse_of_truthy (by simpa using h) _

end Datum
end ChapterTex
