import ChapterTex.Proofs.Render.Rules
import ChapterTex.Proofs.Render.Walk
import ChapterTex.Proofs.Text.Control

/-!
Paths of figures. The path that is printed for a vector graphic tells the address of the graphic, so
the files that a build makes of two graphics never stand in each other's place.
-/
namespace ChapterTex

namespace Figure
variable {url stem : List Char}

/-- The address of the vector graphic for which a path is printed. -/
def addressChars (path : List Char) : List Char :=
  let stem := path.take (path.length - ".pdf".length)
  (if generatedDir.isPrefixOf stem then imageDir ++ stem.drop generatedDir.length else stem) ++
    ".svg".toList

def address (path : String) : String := String.ofList (addressChars path.toList)

theorem printedChars_vector (stem : List Char) :
    printedChars (stem ++ ".svg".toList) = generated stem ++ ".pdf".toList := by
  have hsuffix : ".svg".toList.isSuffixOf (stem ++ ".svg".toList) = true :=
    List.isSuffixOf_iff_suffix.mpr (List.suffix_append stem _)
  have hstem : withoutSvg? (stem ++ ".svg".toList) = some stem := by
    rw [withoutSvg?, if_pos hsuffix, List.length_append, Nat.add_sub_cancel, List.take_left]
  rw [printedChars, hstem]

theorem printedChars_of_not_vector (h : ¬ ".svg".toList <:+ url) : printedChars url = url := by
  have hnone : withoutSvg? url = none := by
    rw [withoutSvg?, if_neg (fun hsuffix => h (List.isSuffixOf_iff_suffix.mp hsuffix))]
  rw [printedChars, hnone]

theorem generated_imageDir (rest : List Char) :
    generated (imageDir ++ rest) = generatedDir ++ rest := by
  have hdir : imageDir.isPrefixOf (imageDir ++ rest) = true :=
    List.isPrefixOf_iff_prefix.mpr (List.prefix_append imageDir rest)
  rw [generated, if_pos hdir, List.drop_left]

theorem generated_of_outside (h : ¬ imageDir <+: stem) : generated stem = stem := by
  rw [generated, if_neg (fun hdir => h (List.isPrefixOf_iff_prefix.mp hdir))]

theorem imageDir_prefix_generatedDir : imageDir <+: generatedDir := by decide

/-- The generated directory lies in the image directory, so that an address which is kept as it is
cannot lead there. -/
theorem generatedDir_prefix_generated_iff :
    generatedDir <+: generated stem ↔ imageDir <+: stem := by
  constructor
  · intro hgenerated
    by_contra hdir
    rw [generated_of_outside hdir] at hgenerated
    exact hdir (imageDir_prefix_generatedDir.trans hgenerated)
  · rintro ⟨rest, rfl⟩
    rw [generated_imageDir]
    exact List.prefix_append generatedDir rest

theorem addressChars_generated (stem : List Char) :
    addressChars (generated stem ++ ".pdf".toList) = stem ++ ".svg".toList := by
  have htake : (generated stem ++ ".pdf".toList).take
      ((generated stem ++ ".pdf".toList).length - ".pdf".length) = generated stem := by
    rw [List.length_append, String.length_toList, Nat.add_sub_cancel, List.take_left]
  simp only [addressChars, htake]
  by_cases hdir : imageDir <+: stem
  · obtain ⟨rest, rfl⟩ := hdir
    have hgenerated : generatedDir.isPrefixOf (generatedDir ++ rest) = true :=
      List.isPrefixOf_iff_prefix.mpr (List.prefix_append generatedDir rest)
    rw [generated_imageDir, if_pos hgenerated, List.drop_left]
  · have hgenerated : ¬ generatedDir.isPrefixOf (generated stem) = true := fun h =>
      hdir (generatedDir_prefix_generated_iff.mp (List.isPrefixOf_iff_prefix.mp h))
    rw [if_neg hgenerated, generated_of_outside hdir]

theorem addressChars_printedChars (h : ".svg".toList <:+ url) :
    addressChars (printedChars url) = url := by
  obtain ⟨stem, rfl⟩ := h
  rw [printedChars_vector, addressChars_generated]

theorem pdf_suffix_printedChars (h : ".svg".toList <:+ url) :
    ".pdf".toList <:+ printedChars url := by
  obtain ⟨stem, rfl⟩ := h
  rw [printedChars_vector]
  exact List.suffix_append (generated stem) _

/-- No part of a suffix belongs to a directory, which has no dot in its name. -/
theorem generatedDir_prefix_printedChars_iff (h : ".svg".toList <:+ url) :
    generatedDir <+: printedChars url ↔ imageDir <+: url := by
  obtain ⟨stem, rfl⟩ := h
  have hprinted :
      generatedDir <+: generated stem ++ ".pdf".toList ↔ generatedDir <+: generated stem :=
    ⟨Text.prefix_of_prefix_append_cons (by decide), fun h => h.trans (List.prefix_append _ _)⟩
  have hurl : imageDir <+: stem ++ ".svg".toList ↔ imageDir <+: stem :=
    ⟨Text.prefix_of_prefix_append_cons (by decide), fun h => h.trans (List.prefix_append _ _)⟩
  rw [printedChars_vector, hprinted, hurl, generatedDir_prefix_generated_iff]

end Figure

/-- The address of the figure that a token shows. An absent one is empty. -/
def Token.figureAddress? (t : Token) : Option String :=
  match t.argument?.getD (.dict []) with
  | .dict figure => ((Datum.field? figure "url").orElse (.text "")).text?
  | _ => none

namespace Renderer
variable {r : Renderer} {t : Token} {url path : String}

/-- The width of a figure. An absent one is the width that the renderer gives to figures. -/
def widthOf (r : Renderer) (t : Token) : String :=
  match t.argument?.getD (.dict []) with
  | .dict figure => ((Datum.field? figure "width").orElse (.text r.figureWidth)).display
  | _ => r.figureWidth

def figureDirective (width path : String) : String :=
  "\n\n\\vskip 1.5ex\n\\includegraphics[width=" ++ width ++ "]\x7b" ++ path ++ "\x7d\n\\vskip 1.5ex"

/-- Whether a figure is printed from the file at a path, wherever it stands. -/
def PrintsPath (r : Renderer) (t : Token) (path : String) : Prop :=
  ∀ next c, r.renderToken t next c = .ok (.text (figureDirective (r.widthOf t) path), c)

theorem figureDirective_inj {width path path' : String}
    (h : figureDirective width path = figureDirective width path') : path = path' := by
  unfold figureDirective at h
  exact (String.append_right_inj _).mp ((String.append_left_inj _).mp h)

theorem printsPath_printed (hkind : t.kind = .metaFigure) (hurl : t.figureAddress? = some url) :
    r.PrintsPath t (Figure.printed url) := by
  intro next c
  have hleaf : t.kind ≠ .inline := by simp [hkind]
  have hrule : r.rule t next c = r.metaFigure t c := by simp only [rule, hkind]
  rw [renderToken_leaf hleaf, hrule]
  unfold Token.figureAddress? at hurl
  split at hurl
  · next figure hfigure =>
    have hwidth : r.widthOf t =
        ((Datum.field? figure "width").orElse (.text r.figureWidth)).display := by
      rw [widthOf, hfigure]
    rw [hwidth]
    unfold figureDirective
    exact metaFigure_eq_ok_iff.mpr ⟨rfl, figure, url, hfigure, hurl, rfl⟩
  · cases hurl

/-- A figure is printed from one file only. -/
theorem printsPath_iff (hkind : t.kind = .metaFigure) (hurl : t.figureAddress? = some url) :
    r.PrintsPath t path ↔ path = Figure.printed url := by
  constructor
  · intro hpath
    have hsame := (hpath none {}).symm.trans (printsPath_printed hkind hurl none {})
    simp only [Except.ok.injEq, Prod.mk.injEq, Datum.text.injEq, and_true] at hsame
    exact figureDirective_inj hsame
  · rintro rfl
    exact printsPath_printed hkind hurl

/-- A figure is printed from one path, which is its address unless that is a vector graphic. The
path of a vector graphic ends in `.pdf`, lies in the generated directory if and only if the graphic
lies in the image directory, and tells the address, so no figure of another vector graphic is
printed from it. -/
theorem figure_paths_tell_addresses (r : Renderer) (t : Token) (url : String)
    (hkind : t.kind = .metaFigure) (hurl : t.figureAddress? = some url) :
    ∃ path, (∀ path', r.PrintsPath t path' ↔ path' = path) ∧
      (¬ ".svg".toList <:+ url.toList → path = url) ∧
      (".svg".toList <:+ url.toList →
        ".pdf".toList <:+ path.toList ∧
        ("img/generated/".toList <+: path.toList ↔ "img/".toList <+: url.toList) ∧
        Figure.address path = url ∧
        ∀ (r' : Renderer) (t' : Token) (url' : String), t'.kind = .metaFigure →
          t'.figureAddress? = some url' → ".svg".toList <:+ url'.toList → r'.PrintsPath t' path →
            url' = url) := by
  have htold (s : String) (hs : ".svg".toList <:+ s.toList) :
      Figure.address (Figure.printed s) = s := by
    rw [Figure.address, Figure.printed, String.toList_ofList, Figure.addressChars_printedChars hs,
      String.ofList_toList]
  refine ⟨Figure.printed url, fun path' => printsPath_iff hkind hurl, fun hother => ?_,
    fun hvector => ?_⟩
  · rw [Figure.printed, Figure.printedChars_of_not_vector hother, String.ofList_toList]
  · have hchars : (Figure.printed url).toList = Figure.printedChars url.toList :=
      String.toList_ofList
    refine ⟨?_, ?_, htold url hvector, ?_⟩
    · rw [hchars]
      exact Figure.pdf_suffix_printedChars hvector
    · rw [hchars]
      exact Figure.generatedDir_prefix_printedChars_iff hvector
    · intro r' t' url' hkind' hurl' hvector' hpath
      rw [printsPath_iff hkind' hurl'] at hpath
      rw [← htold url' hvector', ← hpath, htold url hvector]

/-- A vector graphic that lies in the directory of generated images itself. -/
def generatedFigure : Token :=
  { kind := .metaFigure
    args := [.dict [("url", .latex "img/generated/a.svg"), ("width", .text "5cm")]] }

theorem figure_paths_tell_addresses_generated :
    generatedFigure.kind = .metaFigure ∧
      generatedFigure.figureAddress? = some "img/generated/a.svg" ∧
      PrintsPath { registry := Book.Registry.ofList [], chapter := "basics" } generatedFigure
        "img/generated/generated/a.pdf" ∧
      Figure.address "img/generated/generated/a.pdf" = "img/generated/a.svg" ∧
      ∀ (r : Renderer) (t : Token), t.kind = .metaFigure →
        t.figureAddress? = some "img/a.svg" →
          ¬ r.PrintsPath t "img/generated/generated/a.pdf" := by
  obtain ⟨path, hpath, -, hvector⟩ := figure_paths_tell_addresses
    { registry := Book.Registry.ofList [], chapter := "basics" } generatedFigure
    "img/generated/a.svg" rfl rfl
  have hprints : PrintsPath { registry := Book.Registry.ofList [], chapter := "basics" }
      generatedFigure "img/generated/generated/a.pdf" := fun _ _ => rfl
  obtain rfl := (hpath _).mp hprints
  obtain ⟨-, -, haddress, hother⟩ := hvector (by decide)
  refine ⟨rfl, rfl, hprints, haddress, fun r t hkind hurl hsame => ?_⟩
  exact absurd (hother r t "img/a.svg" hkind hurl (by decide) hsame) (by decide)

end Renderer
end ChapterTex
