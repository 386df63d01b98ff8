import ChapterTex.Proofs.Render.Silent

/-!
Paragraphs in epigraphs. A paragraph is printed without a separator if it is the first one in an
epigraph; it then stands right behind the opening quotes exactly if all tokens in between are
silent.
-/
namespace ChapterTex
namespace Renderer
variable {r : Renderer} {c c' : Context} {tokens : List Token}

theorem isSilent_of_isCellOpen {t : Token} (h : t.isCellOpen = true) : t.isSilent = false := by
  cases hk : t.kind <;>
    simp_all [Token.isCellOpen, TokenKind.isCellOpen, Token.isSilent, Token.isIdle,
      Token.isHiddenCode, TokenKind.isBlank]

/-- A silent token of a run prints nothing, unless it ends a cell and the next token opens one. -/
theorem text_eq_empty_or_cellOpen {fs gs : List Emission} {m : Emission}
    (h : r.emissions tokens c = .ok (fs ++ m :: gs, c')) (hmark : m.token.quoteMark? = none)
    (hsilent : m.token.isSilent = true) :
    m.text = "" ∨ ∃ g rest, gs = g :: rest ∧ g.token.isCellOpen = true := by
  obtain ⟨us, v, ws, c₁, c₂, hvisits, -, hm, hgs⟩ := emitAll_eq_append_cons h
  obtain ⟨htoken, -, piece, hrule, htext⟩ := emit_eq_ok_iff.mp hm
  rw [htoken] at hmark hsilent
  by_cases hnext : v.next.any Token.isCellOpen = false
  · left
    exact (text_eq_empty_iff hmark hrule htext).mpr ⟨hsilent, fun _ => hnext⟩
  · right
    cases hn : v.next with
    | none =>
      rw [hn] at hnext
      exact absurd rfl hnext
    | some n =>
      have hopen : n.isCellOpen = true := by simpa [hn] using hnext
      have hleaf : n.kind ≠ .inline := by
        intro hk
        simp [Token.isCellOpen, hk, TokenKind.isCellOpen] at hopen
      obtain ⟨w, rest, rfl, hw⟩ := Token.visits_next hvisits hn hleaf
      obtain ⟨g, c₃, more, hg, -, rfl⟩ := emitAll_cons_eq_ok_iff.mp hgs
      refine ⟨g, more, rfl, ?_⟩
      rw [(emit_eq_ok_iff.mp hg).1, hw]
      exact hopen

/-- What a run prints up to a paragraph is empty exactly if all tokens of that part are silent. -/
theorem textOf_eq_empty_iff_silent {fs ms gs : List Emission} {e : Emission}
    (h : r.emissions tokens c = .ok (fs ++ ms ++ e :: gs, c')) (he : e.token.isCellOpen = false)
    (hmarks : ∀ m ∈ ms, m.token.quoteMark? = none) :
    Emission.textOf ms = "" ↔ ∀ m ∈ ms, m.token.isSilent = true := by
  rw [Emission.textOf_eq_empty_iff]
  constructor
  · intro hempty m hm
    have hmem : m ∈ fs ++ ms ++ e :: gs := by simp [hm]
    obtain ⟨next, piece, c₁, hrule, htext⟩ := rule_of_mem_emitAll h hmem
    exact ((text_eq_empty_iff (hmarks m hm) hrule htext).mp (hempty m hm)).1
  · intro hsilent m hm
    obtain ⟨before, after, rfl⟩ := List.append_of_mem hm
    have hsplit : fs ++ (before ++ m :: after) ++ e :: gs =
        (fs ++ before) ++ m :: (after ++ e :: gs) := by simp
    rw [hsplit] at h
    rcases text_eq_empty_or_cellOpen h (hmarks m hm) (hsilent m hm) with
      htext | ⟨g, rest, hg, hopen⟩
    · exact htext
    · -- A cell opens neither among silent tokens nor at the paragraph.
      cases after with
      | nil =>
        obtain ⟨rfl, -⟩ := List.cons.inj hg
        rw [he] at hopen
        cases hopen
      | cons a after =>
        obtain ⟨rfl, -⟩ := List.cons.inj hg
        have ha := hsilent a (by simp)
        rw [isSilent_of_isCellOpen hopen] at ha
        cases ha

theorem isEpigraph_of_quoteMark {t : Token} (h : t.quoteMark? = some true) :
    t.kind = .metaQuoteOpen ∧ t.isEpigraph = true := by
  cases hk : t.kind <;> simp_all [Token.quoteMark?]

/-- A paragraph without a separator is in quote mode. -/
theorem quote_of_unseparated {next : Option Token} {e : Emission} {piece : Datum}
    (hk : e.token.kind = .paragraphOpen) (hrule : r.rule e.token next e.before = .ok (piece, c'))
    (htext : piece.text? = some e.text) (hsep : ¬ ['\n', '\n'] <+: e.text.toList) :
    e.before.quote = true ∧ e.text = r.label e.token := by
  have hlabel := text_of_paragraphOpen hk hrule htext
  cases hquote : e.before.quote with
  | true =>
    rw [hquote] at hlabel
    exact ⟨rfl, by simpa using hlabel⟩
  | false =>
    rw [hquote] at hlabel
    refine absurd ?_ hsep
    simp [hlabel]

/-- A paragraph without a separator is the first after the opening of an epigraph. It abuts the
opening quotes exactly if all tokens between them are silent. -/
theorem unseparated_paragraph_abuts_iff {out : String} (hquote : c.quote = false)
    (h : r.renderFrom tokens c = .ok (out, c')) :
    ∃ es, r.emissions tokens c = .ok (es, c') ∧ out = Emission.textOf es ∧
      ∀ fs e gs, es = fs ++ e :: gs → e.token.kind = .paragraphOpen →
        ¬ ['\n', '\n'] <+: e.text.toList →
          ∃ before opening between, fs = before ++ opening :: between ∧
            opening.token.kind = .metaQuoteOpen ∧ opening.token.isEpigraph = true ∧
            (∀ m ∈ between, m.token.quoteMark? = none) ∧ e.text = r.label e.token ∧
            (Emission.textOf between = "" ↔ ∀ m ∈ between, m.token.isSilent = true) := by
  obtain ⟨es, hes, hout⟩ := renderFrom_eq_ok_iff_emissions.mp h
  refine ⟨es, hes, hout, ?_⟩
  intro fs e gs hsplit hk hsep
  subst hsplit
  have hmem : e ∈ fs ++ e :: gs := List.mem_append_right fs List.mem_cons_self
  obtain ⟨next, piece, c₁, hrule, htext⟩ := rule_of_mem_emitAll hes hmem
  obtain ⟨hmode, hlabel⟩ := quote_of_unseparated hk hrule htext hsep
  rw [before_eq_after hes] at hmode
  have hmark : lastMark Token.quoteMark? c.quote (fs.map Emission.token) = true := hmode
  have hne : lastMark Token.quoteMark? c.quote (fs.map Emission.token) ≠ c.quote := by
    rw [hmark, hquote]
    decide
  obtain ⟨history, o, rest, hhistory, ho, hrest⟩ := exists_mark_of_lastMark_ne hne
  rw [hmark] at ho
  obtain ⟨before, tail, rfl, -, htail⟩ := List.map_eq_append_iff.mp hhistory
  obtain ⟨opening, between, rfl, rfl, rfl⟩ := List.map_eq_cons_iff.mp htail
  obtain ⟨hopening, hepigraph⟩ := isEpigraph_of_quoteMark ho
  have hbetween : ∀ m ∈ between, m.token.quoteMark? = none :=
    fun m hm => hrest _ (List.mem_map_of_mem hm)
  refine ⟨before, opening, between, rfl, hopening, hepigraph, hbetween, hlabel, ?_⟩
  have hcell : e.token.isCellOpen = false := by simp [Token.isCellOpen, hk, TokenKind.isCellOpen]
  have hrun : r.emissions tokens c =
      .ok ((before ++ [opening]) ++ between ++ e :: gs, c') := by simpa using hes
  exact textOf_eq_empty_iff_silent hrun hcell hbetween

/-- An epigraph that begins with code, so that its text is glued to the end of the listing. -/
def listingInEpigraph : List Token :=
  [{ kind := .metaQuoteOpen, args := [.dict [("chapter", .bool true)]] },
   { kind := .fence, content := .text "x = 1\n" },
   { kind := .paragraphOpen },
   { kind := .inline, children := [{ kind := .text, content := .text "Text" }] },
   { kind := .paragraphClose },
   { kind := .metaQuoteClose, args := [.dict [("chapter", .bool true)]] }]

theorem unseparated_paragraph_abuts_iff_listing :
    ∃ es, emissions { registry := Book.Registry.ofList [], chapter := "basics" }
        listingInEpigraph {} = .ok (es, {}) ∧
      "\n\n\\epigraphhead[30]\x7b\n\\epigraph\x7b\\hspace*\x7b-.1cm\x7d\\itshape``" ++
        "\n\n\\begin\x7blstlisting\x7d\nx = 1\n\\end\x7blstlisting\x7d\n\\noindent" ++
          "Text''\x7d%\n\x7d" = Emission.textOf es ∧
      ∀ fs e gs, es = fs ++ e :: gs → e.token.kind = .paragraphOpen →
        ¬ ['\n', '\n'] <+: e.text.toList →
          ∃ before opening between, fs = before ++ opening :: between ∧
            opening.token.kind = .metaQuoteOpen ∧ opening.token.isEpigraph = true ∧
            (∀ m ∈ between, m.token.quoteMark? = none) ∧
            e.text = label { registry := Book.Registry.ofList [], chapter := "basics" } e.token ∧
            (Emission.textOf between = "" ↔ ∀ m ∈ between, m.token.isSilent = true) :=
  unseparated_paragraph_abuts_iff rfl (by decide +kernel)

end Renderer
end ChapterTex
