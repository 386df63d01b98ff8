import ChapterTex.Conversion
import ChapterTex.Proofs.Book.Listing
import ChapterTex.Proofs.Outcome

/-!
What a conversion depends on. Of the files it sees the text of its document, and which chapter files
the directory of the book has; of several stages that would fail, the first one gives the failure.
-/
namespace ChapterTex

namespace Tree

def IsDirectory (t : Tree) (p : Path) : Prop := ∃ entries, t.node? p = some (.dir entries)

def HasChapterFile (t : Tree) (p : Path) (name : String) : Prop :=
  Book.isChapterFile name = true ∧
    ∃ entries bytes, t.node? p = some (.dir entries) ∧ (name, Node.file bytes) ∈ entries

/-- Two trees have directories with the same chapter files at a path, or neither has a directory
there. -/
structure SameChapters (t₁ t₂ : Tree) (p : Path) : Prop where
  directory : t₁.IsDirectory p ↔ t₂.IsDirectory p
  files : ∀ name, t₁.HasChapterFile p name ↔ t₂.HasChapterFile p name

variable {t t₁ t₂ : Tree} {p : Path} {names : List String} {name : String}

theorem mem_fileNames {entries : List (String × Node)} :
    name ∈ fileNames entries ↔ ∃ bytes, (name, Node.file bytes) ∈ entries := by
  simp only [fileNames, List.mem_map, List.mem_filter]
  constructor
  · rintro ⟨⟨n, node⟩, ⟨hmem, hfile⟩, rfl⟩
    cases node with
    | file bytes => exact ⟨bytes, hmem⟩
    | dir entries => cases hfile
  · rintro ⟨bytes, hmem⟩
    exact ⟨_, ⟨hmem, rfl⟩, rfl⟩

theorem names?_eq_some_iff :
    t.names? p = some names ↔
      ∃ entries, t.node? p = some (.dir entries) ∧ fileNames entries = names := by
  unfold names?
  cases t.node? p with
  | none => simp
  | some node => cases node <;> simp [Node.entries?]

theorem names?_eq_none_iff : t.names? p = none ↔ ¬ t.IsDirectory p := by
  rw [← Option.not_isSome_iff_eq_none, Option.isSome_iff_exists]
  simp only [names?_eq_some_iff, IsDirectory]
  simp

theorem hasChapterFile_iff (h : t.names? p = some names) :
    t.HasChapterFile p name ↔ Book.isChapterFile name = true ∧ name ∈ names := by
  obtain ⟨entries, hnode, rfl⟩ := names?_eq_some_iff.mp h
  simp [HasChapterFile, hnode, mem_fileNames]

end Tree

namespace Workspace
variable {w : Workspace} {t₁ t₂ : Tree} {d : Directory}

def withTree (w : Workspace) (t : Tree) : Workspace := { w with files := t.files }

theorem chapters_withTree (w : Workspace) (t : Tree) (d : Directory) :
    (w.withTree t).chapters d = ((t.names? d.path).map fun names => .ok (Book.discover names)).getD
      (.error (.noSuchDirectory (w.nameOf d))) := by
  simp only [chapters, list, withTree, Tree.files]
  cases t.names? d.path <;> cases d <;> rfl

/-- The book of a directory is told by the chapter files in it. -/
theorem chapters_congr (h : t₁.SameChapters t₂ d.path) :
    (w.withTree t₁).chapters d = (w.withTree t₂).chapters d := by
  rw [chapters_withTree, chapters_withTree]
  cases h₁ : t₁.names? d.path with
  | none =>
    have h₂ : t₂.names? d.path = none := by
      rw [Tree.names?_eq_none_iff, ← h.directory]
      exact Tree.names?_eq_none_iff.mp h₁
    rw [h₂]
  | some names =>
    cases h₂ : t₂.names? d.path with
    | none =>
      rw [Tree.names?_eq_none_iff, ← h.directory, ← Tree.names?_eq_none_iff, h₁] at h₂
      cases h₂
    | some names' =>
      have hdiscover : Book.discover names = Book.discover names' := by
        refine Book.discover_congr fun name hname => ?_
        have hfiles := h.files name
        rwa [Tree.hasChapterFile_iff h₁, Tree.hasChapterFile_iff h₂, and_congr_right_iff,
          imp_iff_right hname] at hfiles
      rw [Option.map_some, Option.map_some, hdiscover]

end Workspace

/-- What a step gives, or anything in its place if it fails. -/
def StandsFor {α : Type} (a : α) (x : Except Failure α) : Prop := ∀ b, x = .ok b → b = a

theorem standsFor_of_ok {α : Type} {a : α} {x : Except Failure α} (h : x = .ok a) :
    StandsFor a x := by
  intro b hb
  exact Except.ok.inj (hb.symm.trans h)

inductive Stage where
  | format
  | reading
  | loading
  | listing
  | rendering
deriving Repr, DecidableEq

namespace Stage

def place : Stage → Nat
  | format => 0
  | reading => 1
  | loading => 2
  | listing => 3
  | rendering => 4

/-- A stage fails on its own account: on what the stages before it give, or on something in its
place where they fail. -/
inductive Fails (w : Workspace) (r : Request) : Stage → Failure → Prop
  | format {f : Failure} (h : Format.ofName r.format r.path = .error f) : Fails w r .format f
  | reading {f : Failure} (h : w.read r.path = .error f) : Fails w r .reading f
  | loading {f : Failure} {format : Format} {text : String}
      (hformat : StandsFor format (Format.ofName r.format r.path))
      (htext : StandsFor text (w.read r.path))
      (h : r.parse format text = .error f) : Fails w r .loading f
  | listing {f : Failure} (h : w.chapters (r.directory w.env) = .error f) : Fails w r .listing f
  | rendering {f : Failure} {tokens : List Token} {registry : Book.Registry}
      (htokens : StandsFor tokens (r.tokens w))
      (hregistry : StandsFor registry (w.chapters (r.directory w.env)))
      (h : (r.renderer w.env registry).render tokens = .error f) : Fails w r .rendering f

/-- A stage fails, and no stage before it does. -/
structure FailsFirst (w : Workspace) (r : Request) (s : Stage) (f : Failure) : Prop where
  fails : Fails w r s f
  first : ∀ s' : Stage, s'.place < s.place → ∀ f', ¬ Fails w r s' f'

end Stage

section Stages
open Stage
variable {w : Workspace} {r : Request} {s : Stage} {f : Failure} {format : Format} {text : String}
  {tokens : List Token} {registry : Book.Registry}

theorem tokens_eq (hformat : Format.ofName r.format r.path = .ok format)
    (htext : w.read r.path = .ok text) : r.tokens w = r.parse format text := by
  simp only [Request.tokens, hformat, htext, bind, Except.bind]

/-- A conversion fails where its first failing step does. -/
theorem convert_eq_error_iff :
    convert w r = .error f ↔
      Format.ofName r.format r.path = .error f ∨
        ∃ format, Format.ofName r.format r.path = .ok format ∧
          (w.read r.path = .error f ∨ ∃ text, w.read r.path = .ok text ∧
            (r.parse format text = .error f ∨ ∃ tokens, r.parse format text = .ok tokens ∧
              (w.chapters (r.directory w.env) = .error f ∨
                ∃ registry, w.chapters (r.directory w.env) = .ok registry ∧
                  (r.renderer w.env registry).render tokens = .error f))) := by
  simp only [convert, Request.tokens, bind_assoc, bind_eq_error_iff]

/-! A stage whose step succeeds does not fail. -/

theorem not_fails_format (h : Format.ofName r.format r.path = .ok format) :
    ¬ Fails w r .format f := by
  intro hfails
  cases hfails with
  | format hf => cases h.symm.trans hf

theorem not_fails_reading (h : w.read r.path = .ok text) : ¬ Fails w r .reading f := by
  intro hfails
  cases hfails with
  | reading hf => cases h.symm.trans hf

theorem not_fails_loading (hformat : Format.ofName r.format r.path = .ok format)
    (htext : w.read r.path = .ok text) (h : r.parse format text = .ok tokens) :
    ¬ Fails w r .loading f := by
  intro hfails
  cases hfails with
  | loading hformat' htext' hf =>
    rw [← hformat' _ hformat, ← htext' _ htext] at hf
    cases h.symm.trans hf

theorem not_fails_listing (h : w.chapters (r.directory w.env) = .ok registry) :
    ¬ Fails w r .listing f := by
  intro hfails
  cases hfails with
  | listing hf => cases h.symm.trans hf

theorem failsFirst_of_convert (h : convert w r = .error f) : ∃ s, FailsFirst w r s f := by
  rcases convert_eq_error_iff.mp h with h | ⟨format, hformat, h⟩
  · exact ⟨.format, .format h, nofun⟩
  rcases h with h | ⟨text, htext, h⟩
  · refine ⟨.reading, .reading h, fun s hs f' => ?_⟩
    cases s with
    | format => exact not_fails_format hformat
    | _ => exact absurd hs (by decide)
  rcases h with h | ⟨tokens, htokens, h⟩
  · refine ⟨.loading, .loading (standsFor_of_ok hformat) (standsFor_of_ok htext) h,
      fun s hs f' => ?_⟩
    cases s with
    | format => exact not_fails_format hformat
    | reading => exact not_fails_reading htext
    | _ => exact absurd hs (by decide)
  rcases h with h | ⟨registry, hregistry, h⟩
  · refine ⟨.listing, .listing h, fun s hs f' => ?_⟩
    cases s with
    | format => exact not_fails_format hformat
    | reading => exact not_fails_reading htext
    | loading => exact not_fails_loading hformat htext htokens
    | _ => exact absurd hs (by decide)
  · have hall : r.tokens w = .ok tokens := by rw [tokens_eq hformat htext, htokens]
    refine ⟨.rendering, .rendering (standsFor_of_ok hall) (standsFor_of_ok hregistry) h,
      fun s hs f' => ?_⟩
    cases s with
    | format => exact not_fails_format hformat
    | reading => exact not_fails_reading htext
    | loading => exact not_fails_loading hformat htext htokens
    | listing => exact not_fails_listing hregistry
    | rendering => exact absurd hs (by decide)

/-- A stage that does not fail has a step that succeeds. -/
theorem ok_of_not_fails {α : Type} {x : Except Failure α} (h : ∀ f, ¬ Fails w r s f)
    (hx : ∀ f, x = .error f → Fails w r s f) : ∃ a, x = .ok a := by
  cases hcase : x with
  | error f => exact absurd (hx f hcase) (h f)
  | ok a => exact ⟨a, rfl⟩

theorem convert_of_failsFirst (h : FailsFirst w r s f) : convert w r = .error f := by
  obtain ⟨hfails, hfirst⟩ := h
  rw [convert_eq_error_iff]
  -- Behind the first stage, the stages before the failing one are known to succeed.
  have hformats : 0 < s.place → ∃ format, Format.ofName r.format r.path = .ok format :=
    fun hs => ok_of_not_fails (hfirst .format hs) fun _ => .format
  have htexts : 1 < s.place → ∃ text, w.read r.path = .ok text :=
    fun hs => ok_of_not_fails (hfirst .reading hs) fun _ => .reading
  have htokens : 2 < s.place → ∀ {format text}, Format.ofName r.format r.path = .ok format →
      w.read r.path = .ok text → ∃ tokens, r.parse format text = .ok tokens :=
    fun hs _ _ hformat htext => ok_of_not_fails (hfirst .loading hs) fun _ =>
      .loading (standsFor_of_ok hformat) (standsFor_of_ok htext)
  have hregistries : 3 < s.place → ∃ registry, w.chapters (r.directory w.env) = .ok registry :=
    fun hs => ok_of_not_fails (hfirst .listing hs) fun _ => .listing
  cases hfails with
  | format h => exact .inl h
  | reading h =>
    obtain ⟨format, hformat⟩ := hformats (by decide)
    exact .inr ⟨format, hformat, .inl h⟩
  | loading hstands hstands' h =>
    obtain ⟨format, hformat⟩ := hformats (by decide)
    obtain ⟨text, htext⟩ := htexts (by decide)
    rw [← hstands _ hformat, ← hstands' _ htext] at h
    exact .inr ⟨format, hformat, .inr ⟨text, htext, .inl h⟩⟩
  | listing h =>
    obtain ⟨format, hformat⟩ := hformats (by decide)
    obtain ⟨text, htext⟩ := htexts (by decide)
    obtain ⟨tokens, hparse⟩ := htokens (by decide) hformat htext
    exact .inr ⟨format, hformat, .inr ⟨text, htext, .inr ⟨tokens, hparse, .inl h⟩⟩⟩
  | rendering hstands hstands' h =>
    obtain ⟨format, hformat⟩ := hformats (by decide)
    obtain ⟨text, htext⟩ := htexts (by decide)
    obtain ⟨tokens, hparse⟩ := htokens (by decide) hformat htext
    obtain ⟨registry, hregistry⟩ := hregistries (by decide)
    have hall : r.tokens w = .ok tokens := by rw [tokens_eq hformat htext, hparse]
    rw [← hstands _ hall, ← hstands' _ hregistry] at h
    exact .inr ⟨format, hformat,
      .inr ⟨text, htext, .inr ⟨tokens, hparse, .inr ⟨registry, hregistry, h⟩⟩⟩⟩

end Stages

/-- A conversion depends on nothing in the files but the text of its document and the chapter files
of its book. The failure it reports is that of the first stage that would fail. -/
theorem conversion_depends_on_source_and_chapters (w : Workspace) (r : Request) :
    (∀ t₁ t₂ : Tree, (w.withTree t₁).read r.path = (w.withTree t₂).read r.path →
      t₁.SameChapters t₂ (r.directory w.env).path →
        convert (w.withTree t₁) r = convert (w.withTree t₂) r) ∧
      ∀ f, convert w r = .error f ↔ ∃ s, Stage.FailsFirst w r s f := by
  refine ⟨fun t₁ t₂ hread hchapters => ?_, fun f => ⟨failsFirst_of_convert, ?_⟩⟩
  · have hregistry := Workspace.chapters_congr (w := w) hchapters
    simp only [convert, Request.tokens, hread]
    exact congrArg _ (funext fun tokens => congrArg (· >>= _) hregistry)
  · rintro ⟨s, h⟩
    exact convert_of_failsFirst h

/-- A document with a link to the second chapter of its book. -/
def linkSource : List UInt8 :=
  Text.Utf8.encode ("[\x7b\"type\": \"link_open\", \"attrs\": \x7b\"href\": \"basics\"\x7d\x7d, " ++
    "\x7b\"type\": \"text\", \"content\": \"?\"\x7d, \x7b\"type\": \"link_close\"\x7d]").toList

def linkRequest : Request := { path := { root := "", names := ["book", "02_links.json"] } }

def linkedBook : Tree :=
  [("book", .dir [("00_intro.md", .file []), ("01_basics.md", .file [0x23]),
    ("02_links.json", .file linkSource)])]

/-- The book in another order and with other texts, a file more, and a directory that is named as a
chapter file. -/
def rearrangedBook : Tree :=
  [("book", .dir [("03_more.md", .dir []), ("02_links.json", .file linkSource),
    ("notes.txt", .file [0xFF]), ("01_basics.md", .file []), ("00_intro.md", .file [0x2A])])]

def bareWorkspace : Workspace := { files := Tree.files [], workingName := "/" }

theorem sameChapters_rearranged :
    linkedBook.SameChapters rearrangedBook { root := "", names := ["book"] } where
  directory := ⟨fun _ => ⟨_, rfl⟩, fun _ => ⟨_, rfl⟩⟩
  files name := by
    have hnotes : Book.isChapterFile "notes.txt" = false := by decide
    have hlinked : linkedBook.names? { root := "", names := ["book"] } =
        some ["00_intro.md", "01_basics.md", "02_links.json"] := rfl
    have hrearranged : rearrangedBook.names? { root := "", names := ["book"] } =
        some ["02_links.json", "notes.txt", "01_basics.md", "00_intro.md"] := rfl
    rw [Tree.hasChapterFile_iff hlinked, Tree.hasChapterFile_iff hrearranged, and_congr_right_iff]
    intro hname
    have hne : name ≠ "notes.txt" := by
      rintro rfl
      cases hname.symm.trans hnotes
    simp only [List.mem_cons, List.not_mem_nil, or_false, hne, false_or]
    tauto

theorem conversion_depends_on_source_and_chapters_rearranged :
    (bareWorkspace.withTree linkedBook).read linkRequest.path =
        (bareWorkspace.withTree rearrangedBook).read linkRequest.path ∧
      linkedBook.SameChapters rearrangedBook (linkRequest.directory bareWorkspace.env).path ∧
      convert (bareWorkspace.withTree linkedBook) linkRequest = .ok "\\hyperref[basics]\x7b1\x7d" ∧
      convert (bareWorkspace.withTree rearrangedBook) linkRequest =
        .ok "\\hyperref[basics]\x7b1\x7d" := by
  have hregistry : (bareWorkspace.withTree linkedBook).chapters (linkRequest.directory {}) =
      .ok (Book.Registry.ofList ["intro", "basics"]) := by
    have hnames : ["00_intro.md", "01_basics.md", "02_links.json"].filter Book.isChapterFile =
        ["00_intro.md", "01_basics.md"] := by decide
    have hbook : Book.discover ["00_intro.md", "01_basics.md", "02_links.json"] =
        Book.Registry.ofList ["intro", "basics"] := by
      rw [Book.discover, Book.chapterFiles, hnames, List.mergeSort_of_pairwise (by decide)]
      rfl
    exact congrArg Except.ok hbook
  have hfirst : convert (bareWorkspace.withTree linkedBook) linkRequest =
      .ok "\\hyperref[basics]\x7b1\x7d" := by
    unfold convert
    simp only [show (bareWorkspace.withTree linkedBook).env = {} from rfl, hregistry]
    decide +kernel
  obtain ⟨hsame, -⟩ := conversion_depends_on_source_and_chapters bareWorkspace linkRequest
  have hsecond := (hsame linkedBook rearrangedBook rfl sameChapters_rearranged).symm.trans hfirst
  exact ⟨rfl, sameChapters_rearranged, hfirst, hsecond⟩

end ChapterTex
