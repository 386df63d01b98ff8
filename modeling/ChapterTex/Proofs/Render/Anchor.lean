import Mathlib.Data.List.Infix
import ChapterTex.Proofs.Book.Discovery
import ChapterTex.Proofs.Render.Silent

/-!
Anchors. A paragraph, a section heading or a listing with an identifier sets the label that links to
the identifier name. A chapter heading sets the label of the chapter in its place, and the openings
of lists and tables have no place for one.
-/
namespace ChapterTex
namespace Token

/-- The identifier of a token. An empty one is none. -/
def anchor? (t : Token) : Option String :=
  ((t.attr? "id").bind Datum.text?).filter fun anchor => anchor != ""

def isLabelled (t : Token) : Bool :=
  match t.kind with
  | .paragraphOpen => true
  | .headingOpen => t.tag.text? != some "h1"
  | .fence => !t.isHiddenCode
  | _ => false

/-- Whether an author can give a token an identifier. -/
def isAnchorable (t : Token) : Bool :=
  match t.kind with
  | .headingOpen | .paragraphOpen | .bulletListOpen | .orderedListOpen | .tableOpen | .linkOpen
  | .codeInline => true
  | .fence => !t.isHiddenCode
  | _ => false

end Token

/-- What is printed for a token with the identifier `anchor`. -/
structure Emission.Anchors (e : Emission) (chapter anchor : String) : Prop where
  labelled : e.token.isLabelled = true →
    (labelDirective (chapter ++ "." ++ anchor)).toList <:+: e.text.toList
  chapterHeading : e.token.kind = .headingOpen → e.token.tag.text? = some "h1" →
    (labelDirective chapter).toList <:+: e.text.toList ∧
      ¬ (labelDirective (chapter ++ "." ++ anchor)).toList <:+: e.text.toList
  container : e.token.kind ∈ [.bulletListOpen, .orderedListOpen, .tableOpen] →
    e.token.kind.template? = some e.text

/-- What a token prints stands in the text of the run. -/
theorem Emission.toList_infix_textOf {e : Emission} {es : List Emission} (h : e ∈ es) :
    e.text.toList <:+: (textOf es).toList := by
  obtain ⟨before, after, rfl⟩ := List.append_of_mem h
  refine ⟨(textOf before).toList, (textOf after).toList, ?_⟩
  simp

namespace Renderer
variable {r : Renderer} {t : Token} {c c' : Context} {d : Datum}

theorem toList_infix_append (before s after : String) :
    s.toList <:+: (before ++ s ++ after).toList := by
  refine ⟨before.toList, after.toList, ?_⟩
  simp

/-- A text with a mark does not occur where the mark would come to stand in a part without it. -/
theorem not_infix_of_notMem (front rest : List Char) {before tail : List Char} {mark : Char}
    (hlength : before.length ≤ front.length) (hmark : mark ∉ tail) :
    ¬ front ++ mark :: rest <:+: before ++ tail := by
  rintro ⟨s, u, h⟩
  have hcut : (s ++ front) ++ mark :: (rest ++ u) = before ++ tail := by simpa using h
  rcases List.append_eq_append_iff.mp hcut with ⟨v, hbefore, htail⟩ | ⟨v, -, rfl⟩
  · have hnil : v = [] := by
      rw [hbefore] at hlength
      simp only [List.length_append] at hlength
      exact List.eq_nil_of_length_eq_zero (by omega)
    rw [hnil, List.nil_append] at htail
    exact hmark (by simp [← htail])
  · exact hmark (by simp)

/-- The label of a chapter, and what follows it in a heading, hold no label of an identifier. -/
theorem not_infix_chapterHeading (chapter anchor : String) (starred : Bool) :
    ¬ (labelDirective (chapter ++ "." ++ anchor)).toList <:+:
      (labelDirective chapter ++ "\\chapter" ++ (if starred then "*" else "") ++
        "\x7b").toList := by
  have hmark : '.' ∉ ("\x7d\\chapter" ++ (if starred then "*" else "") ++ "\x7b").toList := by
    cases starred <;> simp
  have h := not_infix_of_notMem ("\\label\x7b" ++ chapter).toList (anchor ++ "\x7d").toList
    le_rfl hmark
  simpa [labelDirective] using h

theorem label_eq_of_anchor {anchor : String} (h : t.anchor? = some anchor) :
    r.label t = labelDirective (r.chapter ++ "." ++ anchor) := by
  obtain ⟨hid, hne⟩ := Option.filter_eq_some_iff.mp h
  obtain ⟨d, hd, htext⟩ := Option.bind_eq_some_iff.mp hid
  have hnonempty : anchor ≠ "" := by simpa using hne
  rcases Datum.text?_eq_some_iff.mp htext with rfl | rfl
  · rw [label_eq_of_id hd (by simpa [Datum.truthy] using hnonempty), Datum.display_text]
  · rw [label_eq_of_id hd (by simpa [Datum.truthy] using hnonempty), Datum.display_latex]

/-- A labelled token prints its label, whatever is printed around it. -/
theorem exists_text_of_isLabelled {next : Option Token} (ht : t.isLabelled = true)
    (h : r.rule t next c = .ok (d, c')) :
    ∃ before after, d = .text (before ++ r.label t ++ after) := by
  cases hk : t.kind <;> simp only [Token.isLabelled, hk, reduceCtorEq] at ht <;>
    simp only [rule, hk] at h
  case paragraphOpen =>
    obtain ⟨rfl, -⟩ := paragraphOpen_eq_ok_iff.mp h
    exact ⟨if c.quote then "" else "\n\n", "", by simp⟩
  case headingOpen =>
    obtain ⟨-, ⟨h1, -⟩ | ⟨tag, command, -, -, rfl⟩⟩ := headingOpen_eq_ok_iff.mp h
    · simp [h1] at ht
    · exact ⟨"\n\n", "\\" ++ command ++ "\x7b", by simp [String.append_assoc]⟩
  case fence =>
    obtain ⟨-, info, hi, ⟨hidden, -⟩ | ⟨-, code, -, rfl⟩⟩ := fence_eq_ok_iff.mp h
    · simp [Token.isHiddenCode, hk, hi, hidden] at ht
    · exact ⟨"\n\n", "\\begin\x7blstlisting\x7d\n" ++ Text.trimEndText code ++
        "\n\\end\x7blstlisting\x7d\n\\noindent", by simp [String.append_assoc]⟩

/-- A link to an anchor in a chapter of the book names the label of the anchor. -/
theorem exists_link_to_anchor {registry : Book.Registry} {chapter anchor : String}
    (hslug : Book.IsSlug chapter) (hmem : chapter ∈ registry.slugs) (hanchor : '\n' ∉ anchor.toList)
    (hne : anchor ≠ "") :
    ∃ link, registry.resolve (chapter ++ "#" ++ anchor) = some link ∧
      link.label = chapter ++ "." ++ anchor := by
  obtain ⟨index, -, hlink⟩ :=
    Book.Registry.resolve_of_mem (Book.splitTarget?_anchor hslug hanchor) hmem
  exact ⟨_, hlink, by simp [Book.ChapterLink.label, hne]⟩

theorem emission_anchors {e : Emission} {next : Option Token} {anchor : String}
    (ha : e.token.anchor? = some anchor) (hrule : r.rule e.token next c = .ok (d, c'))
    (htext : d.text? = some e.text) : e.Anchors r.chapter anchor := by
  constructor
  · intro hlabelled
    obtain ⟨before, after, rfl⟩ := exists_text_of_isLabelled hlabelled hrule
    rw [← Option.some.inj htext, ← label_eq_of_anchor ha]
    exact toList_infix_append before (r.label e.token) after
  · intro hk h1
    simp only [rule, hk] at hrule
    obtain ⟨-, ⟨-, rfl⟩ | ⟨tag, command, htag, hcommand, -⟩⟩ := headingOpen_eq_ok_iff.mp hrule
    · rw [← Option.some.inj htext]
      refine ⟨⟨[], ("\\chapter" ++ (if r.frontMatter then "*" else "") ++ "\x7b").toList, ?_⟩, ?_⟩
      · simp
      · exact not_infix_chapterHeading r.chapter anchor r.frontMatter
    · rw [h1] at htag
      cases htag
      cases hcommand
  · intro hk
    simp only [List.mem_cons, List.not_mem_nil, or_false] at hk
    rcases hk with hk | hk | hk <;>
      · simp only [rule, hk] at hrule
        cases hrule
        rw [← Option.some.inj htext, hk]
        rfl

/-- Every identifier of a paragraph, a section heading or a listing gets its label, the one that
links to the identifier name from any chapter of the book. -/
theorem anchors_are_labelled {tokens : List Token} {out : String}
    (h : r.renderFrom tokens c = .ok (out, c')) :
    ∃ es, r.emissions tokens c = .ok (es, c') ∧ out = Emission.textOf es ∧
      es.map Emission.token = Token.leaves tokens ∧
      ∀ e ∈ es, ∀ anchor, e.token.anchor? = some anchor → e.Anchors r.chapter anchor ∧
        ∀ registry : Book.Registry, Book.IsSlug r.chapter → r.chapter ∈ registry.slugs →
          '\n' ∉ anchor.toList → ∃ link,
            registry.resolve (r.chapter ++ "#" ++ anchor) = some link ∧
              link.label = r.chapter ++ "." ++ anchor := by
  obtain ⟨es, hes, hout⟩ := renderFrom_eq_ok_iff_emissions.mp h
  refine ⟨es, hes, hout, map_token_of_emitAll hes, ?_⟩
  intro e he anchor ha
  obtain ⟨next, piece, c₁, hrule, htext⟩ := rule_of_mem_emitAll hes he
  refine ⟨emission_anchors ha hrule htext, ?_⟩
  intro registry hslug hmem hanchor
  have hne : anchor ≠ "" := by simpa using (Option.filter_eq_some_iff.mp ha).2
  exact exists_link_to_anchor hslug hmem hanchor hne

/-- A section in an inline token, an epigraph whose paragraph has an identifier, and a chapter
heading. -/
def anchoredTokens : List Token :=
  [{ kind := .headingOpen, tag := .text "h1", attrs := [("id", .text "top")] },
   { kind := .headingClose },
   { kind := .inline
     children := [{ kind := .headingOpen, tag := .text "h3", attrs := [("id", .text "setup")] },
                  { kind := .headingClose }] },
   { kind := .metaQuoteOpen, args := [.dict [("chapter", .bool true)]] },
   { kind := .paragraphOpen, attrs := [("id", .text "motto")] },
   { kind := .fence, attrs := [("id", .text "code")], content := .text "x" }]

theorem anchors_are_labelled_setup :
    ∃ es, emissions { registry := Book.Registry.ofList [], chapter := "basics" } anchoredTokens {} =
        .ok (es, {}) ∧
      "\\label\x7bbasics\x7d\\chapter\x7b\x7d\n\n\\label\x7bbasics.setup\x7d\\subsection\x7b\x7d" ++
        "\n\n\\epigraphhead[30]\x7b\n\\epigraph\x7b\\hspace*\x7b-.1cm\x7d\\itshape``" ++
          "\\label\x7bbasics.motto\x7d\n\n\\label\x7bbasics.code\x7d\\begin\x7blstlisting\x7d\nx" ++
            "\n\\end\x7blstlisting\x7d\n\\noindent" = Emission.textOf es ∧
      es.map Emission.token = Token.leaves anchoredTokens ∧
      ∀ e ∈ es, ∀ anchor, e.token.anchor? = some anchor → e.Anchors "basics" anchor ∧
        ∀ registry : Book.Registry, Book.IsSlug "basics" → "basics" ∈ registry.slugs →
          '\n' ∉ anchor.toList → ∃ link,
            registry.resolve ("basics" ++ "#" ++ anchor) = some link ∧
              link.label = "basics" ++ "." ++ anchor :=
  anchors_are_labelled (by decide +kernel)

/-- Tokens whose identifiers are not printed. -/
def unlabelledTokens : List Token :=
  [{ kind := .headingOpen, tag := .text "h1", attrs := [("id", .text "top")] },
   { kind := .bulletListOpen, attrs := [("id", .text "items")] },
   { kind := .orderedListOpen, attrs := [("id", .text "steps")] },
   { kind := .tableOpen, attrs := [("id", .text "data")] },
   { kind := .inline
     children :=
       [{ kind := .linkOpen, attrs := [("href", .text "notes.html"), ("id", .text "ref")] },
        { kind := .codeInline, attrs := [("id", .text "code")], content := .text "x" }] }]

def unlabelledText : String :=
  "\\label\x7bbasics\x7d\\chapter\x7b\n\n\\begin\x7bitemize\x7d\n\n\\begin\x7benumerate\x7d" ++
    "\n\n\\noindent\\begin\x7btabular\x7d\x7bll\x7d\\href\x7bnotes.html\x7d\x7b\\lstinline`x`"

/-- Not every identifier gets a label: those of chapter headings, lists, tables, links and inline
code do not. -/
theorem anchors_not_labelled_everywhere :
    ∃ es, emissions { registry := Book.Registry.ofList [], chapter := "basics" }
        unlabelledTokens {} = .ok (es, {}) ∧
      es.map Emission.token = Token.leaves unlabelledTokens ∧
      ∀ e ∈ es, e.token.isAnchorable = true ∧ ∃ anchor, e.token.anchor? = some anchor ∧
        ¬ (labelDirective ("basics" ++ "." ++ anchor)).toList <:+: e.text.toList := by
  have hrun : renderFrom { registry := Book.Registry.ofList [], chapter := "basics" }
      unlabelledTokens {} = .ok (unlabelledText, {}) := by decide +kernel
  have hanchored : ∀ t ∈ Token.leaves unlabelledTokens,
      t.isAnchorable = true ∧ t.anchor?.isSome = true := by decide +kernel
  -- All labels of anchors begin alike, and the text holds no such beginning.
  have hbegins : ∀ anchor, "\\label\x7bbasics.".toList <:+:
      (labelDirective ("basics" ++ "." ++ anchor)).toList :=
    fun anchor => ⟨[], (anchor ++ "\x7d").toList, by simp [labelDirective]⟩
  have hnone : ¬ "\\label\x7bbasics.".toList <:+: unlabelledText.toList := by decide +kernel
  obtain ⟨es, hes, hout⟩ := renderFrom_eq_ok_iff_emissions.mp hrun
  have htokens := map_token_of_emitAll hes
  refine ⟨es, hes, htokens, ?_⟩
  intro e he
  have hmem : e.token ∈ Token.leaves unlabelledTokens := by
    rw [Token.leaves, ← htokens]
    exact List.mem_map_of_mem he
  obtain ⟨hkind, hsome⟩ := hanchored _ hmem
  obtain ⟨anchor, hanchor⟩ := Option.isSome_iff_exists.mp hsome
  refine ⟨hkind, anchor, hanchor, ?_⟩
  intro hlabel
  have htext := Emission.toList_infix_textOf he
  rw [← hout] at htext
  exact hnone (((hbegins anchor).trans hlabel).trans htext)

end Renderer
end ChapterTex
