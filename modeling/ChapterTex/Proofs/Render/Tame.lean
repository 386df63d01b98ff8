import ChapterTex.Proofs.Book.Discovery
import ChapterTex.Proofs.Latex.Plain
import ChapterTex.Proofs.Render.Modes

/-!
Tame documents, in which the texts that are printed without the escaper are neutral. What stands
between the fixed parts of their output is neutral then: labels, numbers, and the addresses of
figures.
-/
namespace ChapterTex
open Latex (Neutral Weighs Inert BraceScan)

/-- A value that is neutral where it is printed as it is. An absent one is not printed. -/
def Datum.PrintsNeutral (d : Datum) : Prop := d.truthy = true → Neutral d.display.toList

instance (d : Datum) : Decidable d.PrintsNeutral :=
  inferInstanceAs (Decidable (d.truthy = true → Neutral d.display.toList))

namespace Token

def fields? (t : Token) : Option (Record Datum) :=
  match t.argument? with
  | some (.dict fields) => some fields
  | _ => none

/-- A token without escaped text, in which everything is neutral that is printed as it is. Text is
so in raw mode only. -/
structure Tame (t : Token) (raw : Bool) : Prop where
  content : t.content.isPlain = true
  args : Datum.allPlain t.args = true
  id : ∀ d ∈ t.attr? "id", d.PrintsNeutral
  href : ∀ d ∈ t.attr? "href", d.PrintsNeutral
  codeInline : t.kind = .codeInline → t.content.PrintsNeutral
  fence : t.kind = .fence → ∀ s ∈ t.content.text?, Neutral (Text.trimEndText s).toList
  text : t.kind = .text → raw = true → t.content.PrintsNeutral
  figure : t.kind = .metaFigure → ∀ figure ∈ t.fields?, ∀ name ∈ ["url", "width"],
    (Datum.field? figure name).PrintsNeutral

instance (t : Token) (raw : Bool) : Decidable (t.Tame raw) :=
  decidable_of_iff (t.content.isPlain = true ∧ Datum.allPlain t.args = true ∧
      (∀ d ∈ t.attr? "id", d.PrintsNeutral) ∧ (∀ d ∈ t.attr? "href", d.PrintsNeutral) ∧
      (t.kind = .codeInline → t.content.PrintsNeutral) ∧
      (t.kind = .fence → ∀ s ∈ t.content.text?, Neutral (Text.trimEndText s).toList) ∧
      (t.kind = .text → raw = true → t.content.PrintsNeutral) ∧
      (t.kind = .metaFigure → ∀ figure ∈ t.fields?, ∀ name ∈ ["url", "width"],
        (Datum.field? figure name).PrintsNeutral))
    ⟨fun ⟨content, args, id, href, code, fence, text, figure⟩ =>
      ⟨content, args, id, href, code, fence, text, figure⟩,
    fun h => ⟨h.content, h.args, h.id, h.href, h.codeInline, h.fence, h.text, h.figure⟩⟩

/-- Every token is tame in the mode in which the tokens before it leave the run. -/
def TameFrom (raw : Bool) : List Token → Prop
  | [] => True
  | t :: rest => t.Tame raw ∧ TameFrom (t.rawMark?.getD raw) rest

instance (raw : Bool) : ∀ tokens, Decidable (TameFrom raw tokens)
  | [] => inferInstanceAs (Decidable True)
  | t :: rest =>
    have := instDecidableTameFrom (t.rawMark?.getD raw) rest
    inferInstanceAs (Decidable (_ ∧ _))

end Token

/-- The settings of a run, of which the label and the default width are printed as they are. -/
structure Renderer.Tame (r : Renderer) : Prop where
  chapter : Neutral r.chapter.toList
  figureWidth : Neutral r.figureWidth.toList

namespace Datum
variable {d : Datum} {s : String}

theorem PrintsNeutral.orElse {default : Datum} (h : d.PrintsNeutral)
    (hdefault : Neutral default.display.toList) : Neutral (d.orElse default).display.toList := by
  cases ht : d.truthy with
  | true =>
    rw [orElse_of_truthy ht]
    exact h ht
  | false =>
    rw [orElse_of_not_truthy ht]
    exact hdefault

theorem PrintsNeutral.of_text? (h : d.PrintsNeutral) (hs : d.text? = some s) :
    Neutral s.toList := by
  by_cases he : s = ""
  · rw [he]
    exact Latex.neutral_nil
  · have ht : d.truthy = true := by
      rcases text?_eq_some_iff.mp hs with rfl | rfl <;> simpa [truthy] using he
    rw [← display_eq_of_text? hs]
    exact h ht

end Datum

/-! What is printed between the fixed parts. -/

namespace Latex

theorem inert_of_isAsciiWord {text : List Char} (h : ∀ c ∈ text, Text.isAsciiWord c = true) :
    Inert text := by
  intro c hc
  refine ⟨?_, ?_, ?_⟩ <;>
    · rintro rfl
      exact absurd (h _ hc) (by decide)

theorem inert_toDigits (n : Nat) : Inert (Nat.toDigits 10 n) := by
  refine inert_of_isAsciiWord fun c hc => ?_
  have hdigit := Nat.isDigit_of_mem_toDigits (by decide) (by decide) hc
  simp [Text.isAsciiWord, Char.isAlphanum, hdigit]

theorem inert_toString (n : Int) : Inert (toString n).toList := by
  rw [Int.toString_eq_repr, Int.repr_eq_if]
  by_cases hn : 0 ≤ n
  · rw [if_pos hn, Nat.toList_repr]
    exact inert_toDigits _
  · rw [if_neg hn, String.toList_append, Nat.toList_repr]
    intro c hc
    rcases List.mem_append.mp hc with hc | hc
    · obtain rfl : c = '-' := by simpa using hc
      decide
    · exact inert_toDigits _ c hc

end Latex

/-- The label that a neutral link target points at is neutral. -/
theorem Book.Registry.neutral_label {registry : Book.Registry} {target : String}
    {link : Book.ChapterLink} (hlink : registry.resolve target = some link)
    (h : Neutral target.toList) : Neutral link.label.toList := by
  obtain ⟨hword, hanchor⟩ := Book.splitTarget?_eq_some_iff.mp (splitTarget?_of_resolve hlink)
  have hslug : Neutral link.slug.toList := (Latex.inert_of_isAsciiWord hword.2).neutral
  unfold Book.ChapterLink.label
  rcases hanchor with ⟨hnone, -⟩ | ⟨anchor, -, hsome, rfl⟩
  · rw [hnone]
    exact hslug
  · have hhash : Neutral (link.slug ++ "#").toList := by
      rw [String.toList_append]
      exact hslug.append_neutral (by decide)
    rw [String.toList_append] at h
    have hrest := h.of_neutral_append hhash
    simp only [hsome]
    by_cases hempty : anchor == ""
    · rw [if_pos hempty]
      exact hslug
    · rw [if_neg hempty, String.toList_append, String.toList_append]
      exact (hslug.append_neutral (by decide)).append_neutral hrest

namespace Figure

theorem neutral_generated {url suffix : List Char} (h : Neutral (url ++ suffix)) :
    Neutral (generated url ++ suffix) := by
  unfold generated
  by_cases hp : imageDir.isPrefixOf url
  · obtain ⟨rest, rfl⟩ := List.isPrefixOf_iff_prefix.mp hp
    have hdir : Neutral imageDir := by decide
    have hgenerated : Neutral generatedDir := by decide
    rw [List.append_assoc] at h
    rw [if_pos hp, List.drop_left, List.append_assoc]
    exact (h.of_neutral_append hdir).after_neutral hgenerated
  · rw [if_neg hp]
    exact h

/-- The address that is printed for a neutral address is neutral. -/
theorem neutral_printed {url : String} (h : Neutral url.toList) : Neutral (printed url).toList := by
  rw [printed, String.toList_ofList, printedChars]
  split
  · next stem hstem =>
    have hurl : url.toList = stem ++ ".svg".toList := by
      simp only [withoutSvg?, Option.ite_none_right_eq_some, Option.some.injEq] at hstem
      obtain ⟨hsuffix, rfl⟩ := hstem
      obtain ⟨rest, hrest⟩ := List.isSuffixOf_iff_suffix.mp hsuffix
      rw [← hrest]
      simp
    rw [hurl] at h
    have hsvg : Inert ".svg".toList := by decide
    have hpdf : Inert ".pdf".toList := by decide
    exact (neutral_generated h).replace_suffix hsvg (by decide) hpdf (by decide)
  · exact h

end Figure

namespace Renderer
variable {r : Renderer} {t : Token} {c c' : Context} {d : Datum} {es : List Emission}

theorem neutral_withNumber (n : Int) {s : String} (h : Neutral s.toList) :
    Neutral (withNumber n s).toList := by
  rw [withNumber, String.toList_ofList]
  refine h.flatMap fun c => ?_
  by_cases hc : c == '?'
  · obtain rfl : c = '?' := by simpa using hc
    have hne : (toString n).toList ≠ [] := by
      rw [Int.toString_eq_repr, Int.repr_eq_if]
      split <;> simp [Nat.toDigits_ne_nil]
    rw [if_pos hc]
    exact BraceScan.imitates_of_inert (Latex.inert_toString n) hne (by decide)
  · rw [if_neg hc]
    exact BraceScan.imitates_self c

theorem neutral_labelDirective {label : String} (h : Neutral label.toList) :
    Neutral (labelDirective label).toList := by
  have hopen : Weighs 1 "\\label\x7b".toList := by decide
  rw [labelDirective, String.toList_append, String.toList_append]
  exact hopen.braced h (by decide)

theorem neutral_label {raw : Bool} (hr : r.Tame) (ht : t.Tame raw) :
    Neutral (r.label t).toList := by
  cases hid : t.attr? "id" with
  | none =>
    simp only [label, hid]
    exact Latex.neutral_nil
  | some anchor =>
    cases htruthy : anchor.truthy with
    | false =>
      simp only [label, hid, htruthy, Bool.false_eq_true, if_false]
      exact Latex.neutral_nil
    | true =>
      have hanchor := ht.id anchor hid htruthy
      rw [label_eq_of_id hid htruthy]
      refine neutral_labelDirective ?_
      rw [String.toList_append, String.toList_append]
      exact (hr.chapter.append_neutral (by decide)).append_neutral hanchor

end Renderer
end ChapterTex
