import Mathlib.Algebra.Ring.Nat
import ChapterTex.Proofs.Render.Sequence

/-!
Tables. A row prints its cells with one separator between any two neighbours, whatever is inside of
them, and no separator is printed between rows.
-/
namespace ChapterTex

namespace TokenKind
variable {k : TokenKind}

def isGroupBound : TokenKind → Bool
  | theadOpen | theadClose | tbodyOpen | tbodyClose => true
  | _ => false

theorem isCellClose_of_isGroupBound : k.isGroupBound = true → k.isCellClose = false := by
  cases k <;> decide

theorem isCellClose_of_isCellOpen : k.isCellOpen = true → k.isCellClose = false := by
  cases k <;> decide

theorem isCellOpen_of_isCellClose : k.isCellClose = true → k.isCellOpen = false := by
  cases k <;> decide

theorem template?_of_isGroupBound : k.isGroupBound = true → k.template? = some "" := by
  cases k <;> decide

theorem template?_of_isCellOpen : k.isCellOpen = true → k.template? = some "\n" := by
  cases k <;> decide

end TokenKind

namespace Token

/-- How often the end of a cell is followed by another cell in a stream. -/
def separations : List Token → Nat
  | [] => 0
  | t :: rest => (t.separates rest.head?).toNat + separations rest

theorem separations_append (front back : List Token) :
    separations (front ++ back) =
      separations front + (meets front back).toNat + separations back := by
  induction front with
  | nil => simp [separations]
  | cons t rest ih =>
    cases rest with
    | nil => simp [separations, meets]
    | cons u rest =>
      have hcons : ∀ back : List Token, separations (t :: (u :: rest ++ back)) =
          (t.separates (some u)).toNat + separations (u :: rest ++ back) := fun _ => rfl
      have hfront := hcons []
      rw [List.append_nil] at hfront
      rw [List.cons_append, hcons, ih, hfront, meets_cons_cons]
      omega

/-- A stream in which no cell ends has no end of a cell that is followed by another cell. -/
theorem separations_eq_zero {tokens : List Token} (h : ∀ t ∈ tokens, t.kind.isCellClose = false) :
    separations tokens = 0 := by
  induction tokens with
  | nil => rfl
  | cons t rest ih =>
    obtain ⟨ht, hrest⟩ := List.forall_mem_cons.mp h
    simp [separations, separates, ht, ih hrest]

end Token

open Token (meets seam separations)

/-- A cell of a table. No cell opens or ends among the tokens of its body, but cells may be inside
of those tokens. -/
structure TableCell where
  opening : Token
  body : List Token
  closing : Token
  opens : opening.isCellOpen = true := by decide
  closes : closing.kind.isCellClose = true := by decide
  plain : ∀ t ∈ body, t.isCellOpen = false ∧ t.kind.isCellClose = false := by decide

structure TableRow where
  opening : Token
  cells : List TableCell
  closing : Token
  opens : opening.kind = .trOpen := by decide
  closes : closing.kind = .trClose := by decide

/-- A part of a table: a row, or the start or end of a group of rows. -/
inductive TablePart where
  | row (row : TableRow)
  | group (t : Token) (bounds : t.kind.isGroupBound = true)

structure Table where
  opening : Token
  parts : List TablePart
  closing : Token
  opens : opening.kind = .tableOpen := by decide
  closes : closing.kind = .tableClose := by decide

namespace TableCell

def tokens (cell : TableCell) : List Token := cell.opening :: (cell.body ++ [cell.closing])

theorem meets_body (cell : TableCell) : meets cell.body [cell.closing] = false :=
  Token.meets_of_head
    (by simpa [Token.isCellOpen] using TokenKind.isCellOpen_of_isCellClose cell.closes)

/-- A cell meets another cell, and nothing else. -/
theorem meets_tokens (cell : TableCell) (back : List Token) :
    meets cell.tokens back = back.head?.any Token.isCellOpen := by
  have hlast : cell.tokens.getLast? = some cell.closing := by simp [tokens, List.getLast?_cons]
  simp [meets, hlast, Token.separates, cell.closes]

theorem head?_flatMap_tokens (cells : List TableCell) :
    (cells.flatMap tokens).head?.any Token.isCellOpen = !cells.isEmpty := by
  cases cells with
  | nil => rfl
  | cons cell rest => simpa [tokens] using cell.opens

theorem separations_tokens (cell : TableCell) : separations cell.tokens = 0 := by
  have hopening := TokenKind.isCellClose_of_isCellOpen cell.opens
  have hbody := Token.separations_eq_zero fun t ht => (cell.plain t ht).2
  simp [tokens, separations, Token.separates, hopening, Token.separations_append, hbody,
    cell.meets_body]

/-- Of `n` neighbouring cells, `n - 1` are followed by another one. -/
theorem separations_flatMap (cells : List TableCell) :
    separations (cells.flatMap tokens) = cells.length - 1 := by
  induction cells with
  | nil => rfl
  | cons cell rest ih =>
    rw [List.flatMap_cons, Token.separations_append, cell.separations_tokens, ih, cell.meets_tokens,
      head?_flatMap_tokens]
    cases rest with
    | nil => rfl
    | cons next rest =>
      simp
      omega

end TableCell

namespace TableRow

def tokens (row : TableRow) : List Token :=
  row.opening :: (row.cells.flatMap TableCell.tokens ++ [row.closing])

def bodies (row : TableRow) : List (List Token) := row.cells.map TableCell.body

theorem meets_cells (row : TableRow) :
    meets (row.cells.flatMap TableCell.tokens) [row.closing] = false :=
  Token.meets_of_head (by simp [Token.isCellOpen, row.closes, TokenKind.isCellOpen])

theorem separations_tokens (row : TableRow) : separations row.tokens = row.cells.length - 1 := by
  have hopening : row.opening.kind.isCellClose = false := by rw [row.opens]; rfl
  simp [tokens, separations, Token.separates, hopening, Token.separations_append,
    TableCell.separations_flatMap, row.meets_cells]

end TableRow

namespace TablePart

def tokens : TablePart → List Token
  | .row r => r.tokens
  | .group t _ => [t]

def row? : TablePart → Option TableRow
  | .row r => some r
  | .group _ _ => none

/-- A part of a table does not meet the next one. -/
theorem meets_tokens (part : TablePart) (back : List Token) : meets part.tokens back = false := by
  refine Token.meets_of_last fun t ht => ?_
  cases part with
  | row r =>
    have hlast : r.tokens.getLast? = some r.closing := by
      simp [TableRow.tokens, List.getLast?_cons]
    rw [tokens, hlast] at ht
    rw [← Option.some.inj ht, r.closes]
    rfl
  | group u bounds =>
    have hu : u = t := Option.some.inj ht
    rw [← hu]
    exact TokenKind.isCellClose_of_isGroupBound bounds

theorem separations_flatMap (parts : List TablePart) :
    separations (parts.flatMap tokens) =
      ((parts.filterMap row?).map fun row => row.cells.length - 1).sum := by
  induction parts with
  | nil => rfl
  | cons part rest ih =>
    rw [List.flatMap_cons, Token.separations_append, part.meets_tokens, ih]
    cases part with
    | row r =>
      rw [List.filterMap_cons_some (show row? (.row r) = some r from rfl)]
      simp [tokens, r.separations_tokens]
    | group t bounds =>
      rw [List.filterMap_cons_none (show row? (.group t bounds) = none from rfl)]
      simp [tokens, separations]

end TablePart

namespace Table

def tokens (table : Table) : List Token :=
  table.opening :: (table.parts.flatMap TablePart.tokens ++ [table.closing])

def rows (table : Table) : List TableRow := table.parts.filterMap TablePart.row?

theorem meets_parts (table : Table) :
    meets (table.parts.flatMap TablePart.tokens) [table.closing] = false :=
  Token.meets_of_head (by simp [Token.isCellOpen, table.closes, TokenKind.isCellOpen])

theorem separations_tokens (table : Table) :
    separations table.tokens = (table.rows.map fun row => row.cells.length - 1).sum := by
  have hopening : table.opening.kind.isCellClose = false := by rw [table.opens]; rfl
  simp [tokens, rows, separations, Token.separates, hopening, Token.separations_append,
    TablePart.separations_flatMap, table.meets_parts]

end Table

namespace Renderer
variable {α β : Type} {r : Renderer} {t u : Token} {c c' : Context} {out : String}

/-- Takes a step for every element of a list, each from the context that the one before leaves. -/
def inTurn (step : α → Context → Except Failure (β × Context)) :
    List α → Context → Except Failure (List β × Context)
  | [], c => .ok ([], c)
  | x :: xs, c => do
    let (y, c) ← step x c
    let (ys, c) ← inTurn step xs c
    return (y :: ys, c)

section
variable {step : α → Context → Except Failure (β × Context)} {x : α} {xs : List α} {ys : List β}

theorem inTurn_cons_eq_ok_iff :
    inTurn step (x :: xs) c = .ok (ys, c') ↔ ∃ y c₁ rest,
      step x c = .ok (y, c₁) ∧ inTurn step xs c₁ = .ok (rest, c') ∧ ys = y :: rest := by
  simp only [inTurn, bind_eq_ok_iff, pure_eq_ok_iff, Prod.exists, Prod.mk.injEq]
  constructor
  · rintro ⟨y, c₁, hy, rest, c₂, hrest, rfl, rfl⟩
    exact ⟨y, c₁, rest, hy, hrest, rfl⟩
  · rintro ⟨y, c₁, rest, hy, hrest, rfl⟩
    exact ⟨y, c₁, hy, rest, c', hrest, rfl, rfl⟩

theorem isEmpty_of_inTurn (h : inTurn step xs c = .ok (ys, c')) : ys.isEmpty = xs.isEmpty := by
  cases xs with
  | nil =>
    cases h
    rfl
  | cons x xs =>
    obtain ⟨y, c₁, rest, -, -, rfl⟩ := inTurn_cons_eq_ok_iff.mp h
    rfl

end

/-- What a row prints whose cells have these bodies. -/
def rowText (bodies : List String) : String :=
  " &".intercalate (bodies.map ("\n" ++ ·)) ++ "\n\\tabularnewline"

/-- What a table prints whose rows have these bodies. -/
def tableText (rows : List (List String)) : String :=
  "\n\n\\noindent\\begin\x7btabular\x7d\x7bll\x7d" ++ String.join (rows.map rowText) ++
    "\n\\end\x7btabular\x7d"

theorem renderToken_of_template {s : String} (h : t.kind.template? = some s) (next : Option Token)
    (c : Context) : r.renderToken t next c = .ok (.text s, c) := by
  have hk : t.kind ≠ .inline := by
    intro hk
    rw [hk] at h
    cases h
  rw [renderToken_leaf hk, rule]
  cases hkind : t.kind <;> rw [hkind] at h <;> cases h <;> rfl

theorem renderFrom_of_template {s : String} (h : t.kind.template? = some s) (c : Context) :
    r.renderFrom [t] c = .ok (s, c) :=
  renderFrom_cons_eq_ok_iff.mpr
    ⟨_, c, s, "", renderToken_of_template h _ c, rfl, rfl, String.append_empty.symm⟩

/-- A stream between two tokens that print fixed texts. -/
theorem renderFrom_enclosed {body : List Token} {s s' : String} (ht : t.kind.template? = some s)
    (hu : ∀ c, r.renderFrom [u] c = .ok (s', c)) (hbody : meets body [u] = false) :
    r.renderFrom (t :: (body ++ [u])) c = .ok (out, c') ↔
      ∃ inner, r.renderFrom body c = .ok (inner, c') ∧ out = s ++ inner ++ s' := by
  rw [renderFrom_cons_eq_ok_iff]
  simp only [renderToken_of_template ht, renderFrom_append_eq_ok_iff, seam, hbody, hu]
  constructor
  · rintro ⟨_, c₁, _, _, hd, hs, ⟨inner, c₂, _, hinner, hlast, rfl⟩, rfl⟩
    cases hd
    cases hs
    cases hlast
    exact ⟨inner, hinner, by simp [String.append_assoc]⟩
  · rintro ⟨inner, hinner, rfl⟩
    exact ⟨_, c, s, _, rfl, rfl, ⟨inner, c', s', hinner, rfl, rfl⟩, by simp [String.append_assoc]⟩

theorem renderFrom_cell {cell : TableCell} :
    r.renderFrom cell.tokens c = .ok (out, c') ↔
      ∃ body, r.renderFrom cell.body c = .ok (body, c') ∧ out = "\n" ++ body := by
  have hclosing : ∀ c, r.renderFrom [cell.closing] c = .ok ("", c) := fun c =>
    renderFrom_cons_eq_ok_iff.mpr
      ⟨_, c, "", "", renderToken_of_isCellClose cell.closes _ c, by simp [Token.separator], rfl,
        rfl⟩
  rw [TableCell.tokens,
    renderFrom_enclosed (TokenKind.template?_of_isCellOpen cell.opens) hclosing cell.meets_body]
  simp only [String.append_empty]

theorem intercalate_cons (s t : String) (l : List String) :
    s.intercalate (t :: l) = t ++ (if l.isEmpty then "" else s) ++ s.intercalate l := by
  cases l with
  | nil => simp
  | cons u l => simp [String.append_assoc]

/-- Cells print their bodies on lines of their own, with separators in between. -/
theorem renderFrom_cells {cells : List TableCell} :
    r.renderFrom (cells.flatMap TableCell.tokens) c = .ok (out, c') ↔
      ∃ bodies, inTurn r.renderFrom (cells.map TableCell.body) c = .ok (bodies, c') ∧
        out = " &".intercalate (bodies.map ("\n" ++ ·)) := by
  induction cells generalizing c out with
  | nil =>
    constructor
    · intro h
      cases h
      exact ⟨[], rfl, rfl⟩
    · rintro ⟨_, h, rfl⟩
      cases h
      rfl
  | cons cell rest ih =>
    rw [List.flatMap_cons, renderFrom_append_eq_ok_iff, List.map_cons]
    simp only [inTurn_cons_eq_ok_iff, renderFrom_cell, ih, seam, cell.meets_tokens,
      TableCell.head?_flatMap_tokens]
    -- The separator is there if there are more cells, and so are the other bodies.
    have hseam : ∀ {c₁ : Context} {bodies : List String},
        inTurn r.renderFrom (rest.map TableCell.body) c₁ = .ok (bodies, c') →
          (if bodies.isEmpty then "" else " &") = if !rest.isEmpty then " &" else "" := by
      intro c₁ bodies hbodies
      have hempty := isEmpty_of_inTurn hbodies
      rw [List.isEmpty_map] at hempty
      rw [hempty]
      cases rest <;> rfl
    constructor
    · rintro ⟨_, c₁, _, ⟨body, hbody, rfl⟩, ⟨bodies, hbodies, rfl⟩, rfl⟩
      refine ⟨body :: bodies, ⟨body, c₁, bodies, hbody, hbodies, rfl⟩, ?_⟩
      rw [List.map_cons, intercalate_cons, List.isEmpty_map, hseam hbodies]
    · rintro ⟨_, ⟨body, c₁, bodies, hbody, hbodies, rfl⟩, rfl⟩
      refine ⟨_, c₁, _, ⟨body, hbody, rfl⟩, ⟨bodies, hbodies, rfl⟩, ?_⟩
      rw [List.map_cons, intercalate_cons, List.isEmpty_map, hseam hbodies]

/-- A row prints its cells, and each body from the context that the one before leaves. -/
theorem renderFrom_row {row : TableRow} :
    r.renderFrom row.tokens c = .ok (out, c') ↔
      ∃ bodies, inTurn r.renderFrom row.bodies c = .ok (bodies, c') ∧ out = rowText bodies := by
  have hopening : row.opening.kind.template? = some "" := by rw [row.opens]; rfl
  have hclosing : row.closing.kind.template? = some "\n\\tabularnewline" := by rw [row.closes]; rfl
  rw [TableRow.tokens,
    renderFrom_enclosed hopening (renderFrom_of_template hclosing) row.meets_cells]
  constructor
  · rintro ⟨_, hcells, rfl⟩
    obtain ⟨bodies, hbodies, rfl⟩ := renderFrom_cells.mp hcells
    exact ⟨bodies, hbodies, by rw [String.empty_append, rowText]⟩
  · rintro ⟨bodies, hbodies, rfl⟩
    exact ⟨_, renderFrom_cells.mpr ⟨bodies, hbodies, rfl⟩, by rw [String.empty_append, rowText]⟩

/-- The rows of a table print one after the other. -/
theorem renderFrom_parts {parts : List TablePart} :
    r.renderFrom (parts.flatMap TablePart.tokens) c = .ok (out, c') ↔
      ∃ rows,
        inTurn (inTurn r.renderFrom) ((parts.filterMap TablePart.row?).map TableRow.bodies) c =
          .ok (rows, c') ∧ out = String.join (rows.map rowText) := by
  induction parts generalizing c out with
  | nil =>
    constructor
    · intro h
      cases h
      exact ⟨[], rfl, rfl⟩
    · rintro ⟨_, h, rfl⟩
      cases h
      rfl
  | cons part rest ih =>
    rw [List.flatMap_cons, renderFrom_append_eq_ok_iff]
    simp only [seam, part.meets_tokens, ih, Bool.false_eq_true, if_false, String.append_empty]
    cases part with
    | row row =>
      rw [List.filterMap_cons_some (show TablePart.row? (.row row) = some row from rfl),
        List.map_cons]
      simp only [TablePart.tokens, renderFrom_row, inTurn_cons_eq_ok_iff]
      constructor
      · rintro ⟨_, c₁, _, ⟨bodies, hbodies, rfl⟩, ⟨rows, hrows, rfl⟩, rfl⟩
        exact ⟨bodies :: rows, ⟨bodies, c₁, rows, hbodies, hrows, rfl⟩, by simp [String.join_cons]⟩
      · rintro ⟨_, ⟨bodies, c₁, rows, hbodies, hrows, rfl⟩, rfl⟩
        exact ⟨_, c₁, _, ⟨bodies, hbodies, rfl⟩, ⟨rows, hrows, rfl⟩, by simp [String.join_cons]⟩
    | group t bounds =>
      rw [List.filterMap_cons_none (show TablePart.row? (.group t bounds) = none from rfl)]
      have htemplate := TokenKind.template?_of_isGroupBound bounds
      simp only [TablePart.tokens, renderFrom_of_template htemplate]
      constructor
      · rintro ⟨_, c₁, _, hd, ⟨rows, hrows, rfl⟩, rfl⟩
        cases hd
        exact ⟨rows, hrows, String.empty_append⟩
      · rintro ⟨rows, hrows, rfl⟩
        exact ⟨"", c, _, rfl, ⟨rows, hrows, rfl⟩, String.empty_append.symm⟩

theorem renderFrom_table {table : Table} :
    r.renderFrom table.tokens c = .ok (out, c') ↔
      ∃ rows, inTurn (inTurn r.renderFrom) (table.rows.map TableRow.bodies) c = .ok (rows, c') ∧
        out = tableText rows := by
  have hopening : table.opening.kind.template? =
      some "\n\n\\noindent\\begin\x7btabular\x7d\x7bll\x7d" := by rw [table.opens]; rfl
  have hclosing : table.closing.kind.template? = some "\n\\end\x7btabular\x7d" := by
    rw [table.closes]; rfl
  rw [Table.tokens,
    renderFrom_enclosed hopening (renderFrom_of_template hclosing) table.meets_parts]
  constructor
  · rintro ⟨_, hparts, rfl⟩
    obtain ⟨rows, hrows, rfl⟩ := renderFrom_parts.mp hparts
    exact ⟨rows, hrows, rfl⟩
  · rintro ⟨rows, hrows, rfl⟩
    exact ⟨_, renderFrom_parts.mpr ⟨rows, hrows, rfl⟩, rfl⟩

/-- The ends of cells in a stream that print a separator are those that are followed by a cell. -/
theorem countP_separators {tokens : List Token} {texts : List Datum}
    (h : r.pieces tokens c = .ok (texts, c')) :
    (tokens.zip texts).countP (fun p => p.1.kind.isCellClose && p.2.text? == some " &") =
      separations tokens := by
  induction tokens generalizing c texts with
  | nil => simp [separations]
  | cons t rest ih =>
    obtain ⟨piece, c₁, more, hpiece, hmore, rfl⟩ := pieces_cons_eq_ok_iff.mp h
    rw [List.zip_cons_cons, List.countP_cons, ih hmore, separations, Nat.add_comm]
    congr 1
    cases hclose : t.kind.isCellClose with
    | false => simp [Token.separates, hclose]
    | true =>
      rw [renderToken_of_isCellClose hclose] at hpiece
      cases hpiece
      cases hnext : t.separates rest.head? <;> simp [Token.separator, hnext]

/-- A row prints its cells on lines of their own, with one separator between neighbours, and ends in
the context that the last body leaves. A table prints its rows one after the other. So for a row of
`n` cells there are `n - 1` separators among what its tokens print, and none of them stands between
rows. -/
theorem cells_are_separated (r : Renderer) (c c' : Context) :
    (∀ (row : TableRow) (out : String), r.renderFrom row.tokens c = .ok (out, c') ↔
        ∃ bodies, inTurn r.renderFrom row.bodies c = .ok (bodies, c') ∧ out = rowText bodies) ∧
      (∀ (table : Table) (out : String), r.renderFrom table.tokens c = .ok (out, c') ↔
        ∃ rows, inTurn (inTurn r.renderFrom) (table.rows.map TableRow.bodies) c = .ok (rows, c') ∧
          out = tableText rows) ∧
      ∀ (table : Table) (texts : List Datum), r.pieces table.tokens c = .ok (texts, c') →
        (table.tokens.zip texts).countP (fun p => p.1.kind.isCellClose && p.2.text? == some " &") =
          (table.rows.map fun row => row.cells.length - 1).sum :=
  ⟨fun _ _ => renderFrom_row, fun _ _ => renderFrom_table,
    fun table _ h => (countP_separators h).trans table.separations_tokens⟩

/-- A header whose first cell starts raw text and whose last cell ends it, and a row of one cell. -/
def rawTable : Table where
  opening := { kind := .tableOpen }
  parts :=
    [.group { kind := .theadOpen } (by decide),
     .row
      { opening := { kind := .trOpen }
        cells :=
          [{ opening := { kind := .thOpen }
             body := [{ kind := .metaLatexOpen }, { kind := .text, content := .text "$a_1$" }]
             closing := { kind := .tdClose } },
           { opening := { kind := .tdOpen }, body := [], closing := { kind := .thClose } },
           { opening := { kind := .thOpen }
             body := [{ kind := .text, content := .text " &" }, { kind := .metaLatexClose }]
             closing := { kind := .thClose } }]
        closing := { kind := .trClose } },
     .group { kind := .theadClose } (by decide),
     .row
      { opening := { kind := .trOpen }
        cells :=
          [{ opening := { kind := .tdOpen }
             body := [{ kind := .text, content := .text "_" }]
             closing := { kind := .tdClose } }]
        closing := { kind := .trClose } }]
  closing := { kind := .tableClose }

theorem cells_are_separated_raw :
    ∃ texts, pieces { registry := Book.Registry.ofList [], chapter := "tables" }
        rawTable.tokens {} = .ok (texts, {}) ∧
      (rawTable.tokens.zip texts).countP
        (fun p => p.1.kind.isCellClose && p.2.text? == some " &") = 2 ∧
      renderFrom { registry := Book.Registry.ofList [], chapter := "tables" } rawTable.tokens {} =
        .ok ("\n\n\\noindent\\begin\x7btabular\x7d\x7bll\x7d\n$a_1$ &\n &\n &\n\\tabularnewline" ++
          "\n\\_\n\\tabularnewline\n\\end\x7btabular\x7d", {}) := by
  obtain ⟨-, htable, hcount⟩ :=
    cells_are_separated { registry := Book.Registry.ofList [], chapter := "tables" } {} {}
  refine ⟨_, rfl, hcount rawTable _ rfl, (htable rawTable _).mpr ⟨_, rfl, ?_⟩⟩
  decide

end Renderer
end ChapterTex
