/-!
Texts split at a separator.
-/
namespace ChapterTex.Text

/-- The pieces between separators. There is one more of them than there are separators. -/
def pieces (separator : Char) : List Char → List (List Char)
  | [] => [[]]
  | c :: rest =>
    if c == separator then [] :: pieces separator rest
    else
      match pieces separator rest with
      | [] => [[c]]
      | w :: ws => (c :: w) :: ws

/-- Pieces put together with a separator between neighbours. -/
def unite (separator : Char) (ws : List (List Char)) : List Char := [separator].intercalate ws

theorem pieces_ne_nil (separator : Char) (s : List Char) : pieces separator s ≠ [] := by
  cases s with
  | nil => simp [pieces]
  | cons c rest =>
    unfold pieces
    split
    · simp
    · split <;> simp

theorem length_pieces (separator : Char) (s : List Char) :
    (pieces separator s).length = s.count separator + 1 := by
  induction s with
  | nil => rfl
  | cons c rest ih =>
    unfold pieces
    split
    · next h => simp_all
    · next h =>
      split
      · next h' => exact absurd h' (pieces_ne_nil separator rest)
      · next h' => simp_all

end ChapterTex.Text
