import ChapterTex.Proofs.Render.Tame

/-!
The brace depth of the output. Every token moves it by its weight, so between two tokens of a tame
document it is the sum of the weights so far.
-/
namespace ChapterTex
open Latex (Neutral Weighs BraceScan)

namespace Token

def weight (t : Token) : Int :=
  match t.kind with
  | .headingOpen | .strongOpen | .emOpen | .subOpen | .supOpen | .linkOpen => 1
  | .headingClose | .strongClose | .emClose | .subClose | .supClose | .linkClose => -1
  | .metaQuoteOpen => if t.isEpigraph then 2 else 0
  | .metaQuoteClose => if t.isEpigraph then -2 else 0
  | _ => 0

/-- The depth after a history that starts at the surface. -/
def depthAfter : List Token → Int
  | [] => 0
  | t :: rest => t.weight + depthAfter rest

@[simp] theorem depthAfter_nil : depthAfter [] = 0 := rfl

@[simp] theorem depthAfter_cons (t : Token) (rest : List Token) :
    depthAfter (t :: rest) = t.weight + depthAfter rest := rfl

end Token

namespace Renderer
variable {r : Renderer} {t : Token} {c c' : Context} {d : Datum} {es : List Emission}

theorem neutral_paragraphOpen {raw : Bool} (hr : r.Tame) (ht : t.Tame raw)
    (h : r.paragraphOpen t c = .ok (d, c')) : Neutral d.display.toList := by
  obtain ⟨rfl, -⟩ := paragraphOpen_eq_ok_iff.mp h
  have hlabel := neutral_label hr ht
  rw [Datum.display_text, String.toList_append]
  cases c.quote with
  | true => exact hlabel
  | false => exact hlabel.after_neutral (by decide)

theorem weighs_headingOpen {raw : Bool} (hr : r.Tame) (ht : t.Tame raw)
    (h : r.headingOpen t c = .ok (d, c')) : Weighs 1 d.display.toList := by
  obtain ⟨-, ⟨-, rfl⟩ | ⟨tag, command, -, hcommand, rfl⟩⟩ := headingOpen_eq_ok_iff.mp h
  · have hlabel := neutral_labelDirective hr.chapter
    have hopen :
        Weighs 1 ("\\chapter" ++ (if r.frontMatter then "*" else "") ++ "\x7b").toList := by
      cases r.frontMatter <;> decide
    rw [Datum.display_text, String.append_assoc, String.append_assoc, String.toList_append,
      ← String.append_assoc]
    exact hopen.after_neutral hlabel
  · have hblank : Neutral "\n\n".toList := by decide
    have hlabel := neutral_label hr ht
    have hopen : Weighs 1 ("\\" ++ command ++ "\x7b").toList := by
      have hknown : command ∈ ["section", "subsection", "subsubsection"] := by
        unfold sectionCommand? at hcommand
        grind
      simp only [List.mem_cons, List.not_mem_nil, or_false] at hknown
      rcases hknown with rfl | rfl | rfl <;> decide
    have hsplit : ("\n\n" ++ r.label t ++ "\\" ++ command ++ "\x7b").toList =
        ("\n\n".toList ++ (r.label t).toList) ++ ("\\" ++ command ++ "\x7b").toList := by simp
    rw [Datum.display_text, hsplit]
    exact hopen.after_neutral (hblank.append_neutral hlabel)

theorem neutral_fence {raw : Bool} (hr : r.Tame) (ht : t.Tame raw) (hk : t.kind = .fence)
    (h : r.fence t c = .ok (d, c')) : Neutral d.display.toList := by
  obtain ⟨-, info, -, ⟨-, rfl⟩ | ⟨-, code, hcode, rfl⟩⟩ := fence_eq_ok_iff.mp h
  · exact Latex.neutral_nil
  · have hbegin : Neutral "\\begin\x7blstlisting\x7d\n".toList := by decide
    have hend : Neutral "\n\\end\x7blstlisting\x7d\n\\noindent".toList := by decide
    have hlabel := neutral_label hr ht
    have hprinted := ht.fence hk code hcode
    simp only [Datum.display_text, String.toList_append]
    exact (((hlabel.after_neutral (by decide)).append_neutral hbegin).append_neutral
      hprinted).append_neutral hend

theorem neutral_codeInline {raw : Bool} (ht : t.Tame raw) (hk : t.kind = .codeInline)
    (h : codeInline t c = .ok (d, c')) : Neutral d.display.toList := by
  obtain ⟨-, code, hcode, rfl⟩ := codeInline_eq_ok_iff.mp h
  have hopen : Neutral "\\lstinline`".toList := by decide
  have hprinted := Latex.neutral_escapeVerbatim ((ht.codeInline hk).of_text? hcode)
  simp only [Datum.display_text, String.toList_append]
  exact (hopen.append_neutral hprinted).append_neutral (by decide)

theorem weighs_linkOpen {raw : Bool} (ht : t.Tame raw) (h : r.linkOpen t c = .ok (d, c')) :
    Weighs 1 d.display.toList := by
  obtain ⟨href, hhref, hcases⟩ := linkOpen_eq_ok_iff.mp h
  have hneutral : Neutral href.toList := by
    rw [← Datum.display_eq_of_text? hhref]
    cases ha : t.attr? "href" with
    | none => decide
    | some target => exact (ht.href target ha).orElse (by decide)
  rcases hcases with ⟨-, rfl, -⟩ | ⟨link, htarget, rfl, -⟩
  · have hopen : Weighs 1 "\\href\x7b".toList := by decide
    have haddress := hopen.braced hneutral (by decide : Weighs (-1) ['\x7d'])
    have hnext : Weighs 1 ['\x7b'] := by decide
    have hsplit : ("\\href\x7b" ++ href ++ "\x7d\x7b").toList =
        ("\\href\x7b".toList ++ href.toList ++ ['\x7d']) ++ ['\x7b'] := by simp
    rw [Datum.display_text, hsplit]
    exact hnext.after_neutral haddress
  · rw [← Token.resolve_of_href hhref] at htarget
    have hlabel := Book.Registry.neutral_label htarget hneutral
    have hopen : Neutral "\\hyperref[".toList := by decide
    have hnext : Weighs 1 "]\x7b".toList := by decide
    simp only [Datum.display_text, String.toList_append]
    exact hnext.after_neutral (hopen.append_neutral hlabel)

theorem neutral_text (ht : t.Tame c.raw) (hk : t.kind = .text) {next : Option Token} {s : String}
    (h : r.rule t next c = .ok (d, c')) (hs : d.text? = some s) : Neutral s.toList := by
  have hshown := shownText_of_rule hk h hs
  cases hcontent : t.content with
  | text content =>
    rw [hcontent] at hshown
    cases Option.some.inj hshown
    cases hraw : c.raw with
    | false =>
      simp only [Bool.false_eq_true, if_false]
      exact Latex.neutral_escape _
    | true =>
      have hneutral : Neutral content.toList := by
        have hprints := ht.text hk hraw
        rw [hcontent] at hprints
        exact hprints.of_text? rfl
      simp only [if_true]
      cases c.linkedChapter with
      | none => exact hneutral
      | some n => exact neutral_withNumber n hneutral
  | latex content =>
    have hplain := ht.content
    rw [hcontent] at hplain
    cases hplain
  | _ =>
    rw [hcontent] at hshown
    cases hshown

theorem neutral_metaIndexsee {raw : Bool} (ht : t.Tame raw)
    (h : metaIndexsee t c = .ok (d, c')) : Neutral d.display.toList := by
  obtain ⟨-, term, target, rest, hargs, rfl⟩ := metaIndexsee_eq_ok_iff.mp h
  have hplain := ht.args
  rw [hargs] at hplain
  have hterm := Datum.isPlain_of_mem hplain List.mem_cons_self
  have htarget := Datum.isPlain_of_mem hplain (List.mem_cons_of_mem term List.mem_cons_self)
  rw [Datum.display_text]
  exact Latex.neutral_indexSee hterm htarget

theorem neutral_metaFigure {raw : Bool} (hr : r.Tame) (ht : t.Tame raw) (hk : t.kind = .metaFigure)
    (h : r.metaFigure t c = .ok (d, c')) : Neutral d.display.toList := by
  obtain ⟨-, figure, url, hfigure, hurl, rfl⟩ := metaFigure_eq_ok_iff.mp h
  have hfields : ∀ name ∈ ["url", "width"], (Datum.field? figure name).PrintsNeutral := by
    cases ha : t.argument? with
    | none =>
      rw [ha] at hfigure
      cases hfigure
      decide
    | some argument =>
      rw [ha] at hfigure
      cases hfigure
      exact ht.figure hk figure (by rw [Token.fields?, ha]; rfl)
  have haddress : Neutral (Figure.printed url).toList := by
    refine Figure.neutral_printed ?_
    rw [← Datum.display_eq_of_text? hurl]
    exact (hfields "url" (by decide)).orElse (by decide)
  have hdefault : Neutral (Datum.text r.figureWidth).display.toList := by
    rw [Datum.display_text]
    exact hr.figureWidth
  have hwidth := (hfields "width" (by decide)).orElse hdefault
  have hbegin : Neutral "\n\n\\vskip 1.5ex\n\\includegraphics[width=".toList := by decide
  have hopen : Weighs 1 "]\x7b".toList := by decide
  have hclose : Weighs (-1) "\x7d\n\\vskip 1.5ex".toList := by decide
  simp only [Datum.display_text, String.toList_append]
  exact (hopen.after_neutral (hbegin.append_neutral hwidth)).braced haddress hclose

theorem weighs_metaQuoteOpen (h : metaQuoteOpen t c = .ok (d, c')) :
    Weighs (if t.isEpigraph then 2 else 0) d.display.toList := by
  obtain ⟨quote, -, ⟨he, -, rfl⟩ | ⟨he, -, rfl⟩⟩ := metaQuoteOpen_eq_ok_iff.mp h
  · rw [he]
    decide +kernel
  · rw [he]
    decide +kernel

/-- Author and title are braced and escaped. -/
theorem neutral_attribution {quote : Record Datum} {s : String}
    (hquote : Datum.fieldsPlain quote = true) (h : attribution quote = .ok s) :
    Neutral s.toList := by
  rcases attribution_eq_ok_iff.mp h with ⟨-, rfl⟩ | ⟨-, author, work, hauthor, hwork, rfl⟩
  · exact Latex.neutral_nil
  · have hopen : Weighs 1 "\n\x7b---".toList := by decide
    have hauthor := Latex.neutral_display_of_escapeDatum (Datum.isPlain_field? hquote _) hauthor
    have hwork : Neutral work.toList := by
      rcases hwork with ⟨-, rfl⟩ | ⟨-, title, htitle, rfl⟩
      · exact Latex.neutral_nil
      · have htitle := Latex.neutral_display_of_escapeDatum (Datum.isPlain_field? hquote _) htitle
        rw [String.toList_append]
        exact htitle.after_neutral (by decide)
    simp only [String.toList_append]
    exact (hopen.append_neutral hauthor).braced hwork (by decide)

theorem fieldsPlain_of_quoteFields {quote : Record Datum} (ht : Datum.allPlain t.args = true)
    (h : quoteFields? t = some quote) : Datum.fieldsPlain quote = true := by
  unfold quoteFields? Token.argument? at h
  cases hargs : t.args with
  | nil =>
    rw [hargs] at h
    cases h
    rfl
  | cons argument rest =>
    rw [hargs] at h ht
    have hplain := Datum.isPlain_of_mem ht List.mem_cons_self
    rw [List.head?_cons, Option.getD_some] at h
    cases htruthy : argument.truthy with
    | false =>
      rw [Datum.orElse_of_not_truthy htruthy] at h
      cases h
      rfl
    | true =>
      rw [Datum.orElse_of_truthy htruthy] at h
      cases argument with
      | dict fields =>
        cases h
        simpa [Datum.isPlain] using hplain
      | _ => cases h

theorem weighs_metaQuoteClose {raw : Bool} (ht : t.Tame raw)
    (h : metaQuoteClose t c = .ok (d, c')) :
    Weighs (if t.isEpigraph then -2 else 0) d.display.toList := by
  obtain ⟨-, quote, s, hquote, hs, rfl⟩ := metaQuoteClose_eq_ok_iff.mp h
  have hneutral := neutral_attribution (fieldsPlain_of_quoteFields ht.args hquote) hs
  rw [Datum.display_text]
  cases t.isEpigraph with
  | true =>
    have hfirst : Weighs (-1) "''\x7d%".toList := by decide
    have hsecond : Weighs (-1) "\n\x7d".toList := by decide
    simp only [if_true, String.toList_append]
    exact (hfirst.append_neutral hneutral).append hsecond (Or.inr (by decide))
  | false =>
    simp only [Bool.false_eq_true, if_false, String.toList_append]
    exact hneutral.append_neutral (by decide)

/-- Every token prints text of its weight. -/
theorem weighs_of_rule (hr : r.Tame) (ht : t.Tame c.raw) {next : Option Token} {s : String}
    (h : r.rule t next c = .ok (d, c')) (hs : d.text? = some s) : Weighs t.weight s.toList := by
  have hrule := h
  rw [← Datum.display_eq_of_text? hs]
  cases hk : t.kind <;> simp only [rule, hk] at hrule <;> simp only [Token.weight, hk]
  case paragraphOpen => exact neutral_paragraphOpen hr ht hrule
  case headingOpen => exact weighs_headingOpen hr ht hrule
  case fence => exact neutral_fence hr ht hk hrule
  case codeInline => exact neutral_codeInline ht hk hrule
  case linkOpen => exact weighs_linkOpen ht hrule
  case text =>
    rw [Datum.display_eq_of_text? hs]
    exact neutral_text ht hk h hs
  case metaIndex =>
    cases hrule
    rw [Datum.display_text]
    exact Latex.neutral_indexEntries ht.args
  case metaIndexsee => exact neutral_metaIndexsee ht hrule
  case metaFigure => exact neutral_metaFigure hr ht hk hrule
  case metaQuoteOpen => exact weighs_metaQuoteOpen hrule
  case metaQuoteClose => exact weighs_metaQuoteClose ht hrule
  case thClose | tdClose =>
    cases hrule
    cases next.any Token.isCellOpen <;> decide
  -- The other kinds print templates, which are closed texts.
  all_goals
    cases hrule
    decide

/-- Every emission of a tame run is of the weight of its token. -/
theorem weighs_of_emitAll (hr : r.Tame) {vs : List Visit}
    (ht : Token.TameFrom c.raw (vs.map Visit.token)) (h : r.emitAll vs c = .ok (es, c')) :
    ∀ e ∈ es, Weighs e.token.weight e.text.toList := by
  induction vs generalizing c es with
  | nil =>
    cases h
    intro e he
    exact absurd he List.not_mem_nil
  | cons v vs ih =>
    obtain ⟨e, c₁, rest, he, hrest, rfl⟩ := emitAll_cons_eq_ok_iff.mp h
    obtain ⟨htoken, -, piece, hrule, htext⟩ := emit_eq_ok_iff.mp he
    have hraw : c₁.raw = v.token.rawMark?.getD c.raw := by
      rw [rule_context hrule]
      simp [Context.after, lastMark_cons]
    rw [List.map_cons, Token.TameFrom, ← hraw] at ht
    intro f hf
    rcases List.mem_cons.mp hf with rfl | hf
    · rw [htoken]
      exact weighs_of_rule hr ht.1 hrule htext
    · exact ih ht.2 hrest f hf

end Renderer

namespace Emission
variable {es : List Emission}

/-- Texts of the weights of their tokens take a scan to the depth after these tokens. -/
theorem run_textOf (h : ∀ e ∈ es, Weighs e.token.weight e.text.toList) (k : Int) :
    BraceScan.run ⟨k, false⟩ (textOf es).toList =
      ⟨k + Token.depthAfter (es.map Emission.token), false⟩ := by
  induction es generalizing k with
  | nil => simp
  | cons e rest ih =>
    have he := h e List.mem_cons_self
    have hrest := ih fun f hf => h f (List.mem_cons_of_mem e hf)
    rw [textOf_cons, String.toList_append, BraceScan.run_append, he.run_at, hrest]
    simp [Int.add_assoc]

/-- A scan is nowhere lower than at its lowest between two tokens. -/
theorem staysAbove_textOf_iff (h : ∀ e ∈ es, Weighs e.token.weight e.text.toList) {low k : Int} :
    BraceScan.StaysAbove low ⟨k, false⟩ (textOf es).toList ↔
      ∀ fs, fs <+: es → low ≤ k + Token.depthAfter (fs.map Emission.token) := by
  induction es generalizing k with
  | nil =>
    constructor
    · intro hlow fs hfs
      rw [List.prefix_nil.mp hfs]
      simpa using hlow.le_depth
    · intro hlow
      simpa [BraceScan.StaysAbove] using hlow [] List.nil_prefix
  | cons e rest ih =>
    have he := h e List.mem_cons_self
    have hrest := @ih (fun f hf => h f (List.mem_cons_of_mem e hf)) (k + e.token.weight)
    rw [textOf_cons, String.toList_append, BraceScan.staysAbove_append, he.run_at, hrest]
    constructor
    · rintro ⟨hfirst, hlow⟩ fs hfs
      rcases List.prefix_cons_iff.mp hfs with rfl | ⟨gs, rfl, hgs⟩
      · simpa using hfirst.le_depth
      · have hnext := hlow gs hgs
        rw [List.map_cons, Token.depthAfter_cons]
        omega
    · intro hlow
      have hnext : ∀ gs, gs <+: rest →
          low ≤ k + e.token.weight + Token.depthAfter (gs.map Emission.token) := by
        intro gs hgs
        have hcons := hlow (e :: gs) (List.cons_prefix_cons.mpr ⟨rfl, hgs⟩)
        rw [List.map_cons, Token.depthAfter_cons] at hcons
        omega
      have hstart : low ≤ k := by simpa using hlow [] List.nil_prefix
      have hend : low ≤ k + e.token.weight := by
        simpa using hnext [] List.nil_prefix
      refine ⟨(he.staysAbove_at k).mono ?_, hnext⟩
      omega

end Emission

namespace Renderer
variable {r : Renderer} {c c' : Context}

/-- The brace depth of the output follows the tokens. Between two tokens it is the sum of the
weights so far, on the way it is nowhere lower than between tokens, and so the output as a whole is
neutral exactly if the weights are nested. -/
theorem brace_depth_follows_tokens {tokens : List Token} {out : String} (hr : r.Tame)
    (ht : Token.TameFrom c.raw (Token.leaves tokens)) (h : r.renderFrom tokens c = .ok (out, c')) :
    ∃ es, r.emissions tokens c = .ok (es, c') ∧ out = Emission.textOf es ∧
      es.map Emission.token = Token.leaves tokens ∧
      (∀ fs, fs <+: es → BraceScan.run {} (Emission.textOf fs).toList =
        ⟨Token.depthAfter (fs.map Emission.token), false⟩) ∧
      (∀ low, (∀ p, p <+: out.toList → low ≤ (BraceScan.run {} p).depth) ↔
        ∀ history, history <+: Token.leaves tokens → low ≤ Token.depthAfter history) ∧
      (Neutral out.toList ↔ Token.depthAfter (Token.leaves tokens) = 0 ∧
        ∀ history, history <+: Token.leaves tokens → 0 ≤ Token.depthAfter history) := by
  obtain ⟨es, hes, rfl⟩ := renderFrom_eq_ok_iff_emissions.mp h
  have htokens : es.map Emission.token = Token.leaves tokens := map_token_of_emitAll hes
  have hweights := weighs_of_emitAll hr ht hes
  have hbetween : ∀ fs, fs <+: es → BraceScan.run {} (Emission.textOf fs).toList =
      ⟨Token.depthAfter (fs.map Emission.token), false⟩ := by
    intro fs hfs
    have hrun := Emission.run_textOf (fun e he => hweights e (hfs.subset he)) 0
    rw [Int.zero_add] at hrun
    exact hrun
  have hlowest : ∀ low, BraceScan.StaysAbove low {} (Emission.textOf es).toList ↔
      ∀ history, history <+: Token.leaves tokens → low ≤ Token.depthAfter history := by
    intro low
    rw [Emission.staysAbove_textOf_iff hweights, ← htokens]
    constructor
    · intro hlow history hhistory
      obtain ⟨fs, hfs, rfl⟩ := List.prefix_map_iff.mp hhistory
      simpa using hlow fs hfs
    · intro hlow fs hfs
      simpa using hlow _ (hfs.map Emission.token)
  refine ⟨es, hes, rfl, htokens, hbetween, ?_, ?_⟩
  · intro low
    rw [← BraceScan.staysAbove_iff_prefix]
    exact hlowest low
  · have htotal := hbetween es List.prefix_rfl
    rw [htokens] at htotal
    constructor
    · intro hneutral
      have hrun := hneutral.run_eq
      rw [htotal] at hrun
      exact ⟨congrArg BraceScan.depth hrun, (hlowest 0).mp hneutral.staysAbove⟩
    · rintro ⟨hzero, hlow⟩
      rw [hzero] at htotal
      exact ⟨htotal, (hlowest 0).mpr hlow⟩

/-- A link that stays open, raw text, and an epigraph with braces in its author. -/
def crossedBraces : List Token :=
  [{ kind := .inline
     children := [{ kind := .strongOpen },
                  { kind := .linkOpen, attrs := [("href", .text "basics#a")] },
                  { kind := .text, content := .text "\x7b?" },
                  { kind := .codeInline, content := .text "`\x7b\x7d" },
                  { kind := .strongClose }] },
   { kind := .metaLatexOpen },
   { kind := .text, content := .text "\\emph\x7b?\x7d" },
   { kind := .metaQuoteClose
     args := [.dict [("chapter", .bool true), ("author", .text "\x7dA\\")]] }]

theorem brace_depth_follows_tokens_crossed :
    ∃ out es,
      renderFrom { registry := Book.Registry.ofList ["intro", "basics"], chapter := "intro" }
        crossedBraces {} = .ok (out, { raw := true, linkedChapter := some 1 }) ∧
      out = Emission.textOf es ∧ es.map Emission.token = Token.leaves crossedBraces ∧
      (∀ fs, fs <+: es → BraceScan.run {} (Emission.textOf fs).toList =
        ⟨Token.depthAfter (fs.map Emission.token), false⟩) ∧
      ¬ Neutral out.toList := by
  have hsettings : Tame { registry := Book.Registry.ofList ["intro", "basics"]
                          chapter := "intro" } := ⟨by decide, by decide⟩
  have htame : Token.TameFrom (Context.raw {}) (Token.leaves crossedBraces) := by decide +kernel
  have hrender : renderFrom { registry := Book.Registry.ofList ["intro", "basics"]
                              chapter := "intro" } crossedBraces {} =
      .ok ("\\textbf\x7b\\hyperref[basics.a]\x7b\\\x7b1\\lstinline`\\`\x7b\x7d`\x7d" ++
        "\\emph\x7b1\x7d''\x7d%\n\x7b---\\\x7dA\\textbackslash \x7d\n\x7d",
        { raw := true, linkedChapter := some 1 }) := by decide +kernel
  obtain ⟨es, -, hout, htokens, hbetween, -, hneutral⟩ :=
    brace_depth_follows_tokens hsettings htame hrender
  refine ⟨_, es, hrender, hout, htokens, hbetween, ?_⟩
  intro h
  exact absurd (hneutral.mp h).1 (by decide +kernel)

end Renderer
end ChapterTex
