import ChapterTex.CommandLine.Run
import ChapterTex.Proofs.Conversion.Dependence
import ChapterTex.Proofs.Text.Control

/-!
What a run of `render` writes to its streams. Standard output gets the whole text of a document or
nothing, and standard error tells by its first words what kind of failure there was.
-/
namespace ChapterTex.CommandLine
open Text

/-- A run that prints a text, less its control sequences, and reports nothing. -/
structure Run.Prints (run : Run) (text : String) : Prop where
  exitCode : run.outcome.exitCode = 0
  output : run.outcome.output = withoutControls text ++ "\n"
  error : run.outcome.error? = some ""

/-- A run that prints nothing. The first words of its report tell the failures of rendering and the
other failures of values from all the rest. -/
structure Run.Reports (run : Run) (file : String) (cause : Failure) : Prop where
  exitCode : run.outcome.exitCode = 1
  output : run.outcome.output = ""
  unrenderable :
    (∃ rest, run.outcome.error? =
        some ("Error: Cannot render " ++ withoutControls file ++ " - " ++ rest)) ↔
      cause.isRenderFailure = true
  invalid :
    (∃ rest, run.outcome.error? = some ("Error: Invalid input - " ++ rest)) ↔
      cause.isValueFailure = true ∧ cause.isRenderFailure = false
  notFound : cause.isNotFound = true →
    run.outcome.error? = some ("Error: " ++ withoutControls cause.message ++ "\n")

section Arguments
variable {args : List String} {file format : String} {dir : Option String} {nostarch verbose : Bool}

theorem ownAnswer?_ne_render (found : Found GlobalKey) :
    ownAnswer? found ≠ some (.render file dir format nostarch) := by
  induction found with
  | nil => simp [ownAnswer?]
  | cons entry rest ih =>
    obtain ⟨key, value⟩ := entry
    cases key with
    | verbose => exact ih
    | version => simp [ownAnswer?]
    | help => simp [ownAnswer?]

theorem nonempty?_ne_empty (s : Option String) : nonempty? s ≠ some "" := by
  simp [nonempty?, Option.filter_eq_some_iff]

theorem eq_of_not_help {help : Bool} {answer : Option Command}
    (h : (if help = true then some .help else answer) = some (.render file dir format nostarch)) :
    answer = some (.render file dir format nostarch) := by
  cases help with
  | false => exact h
  | true => cases h

theorem chaptersDir_ne_empty_of_command?
    (h : command? args = some (.render file dir format nostarch)) :
    dir ≠ some "" := by
  unfold command? at h
  split at h
  · obtain ⟨⟨found, files⟩, -, h⟩ := Option.bind_eq_some_iff.mp h
    have hrender := eq_of_not_help h
    split at hrender
    · cases hrender
      exact nonempty?_ne_empty _
    · cases hrender
  · obtain ⟨⟨found, directories⟩, -, h⟩ := Option.bind_eq_some_iff.mp h
    obtain ⟨_, -, hchapters⟩ := Option.bind_eq_some_iff.mp (eq_of_not_help h)
    cases hchapters
  · obtain ⟨⟨found, rest⟩, -, h⟩ := Option.bind_eq_some_iff.mp h
    exact absurd h (ownAnswer?_ne_render found)

/-- An empty directory counts as absent. -/
theorem chaptersDir_ne_empty
    (h : Invocation.ofArguments? args =
      some { command := .render file dir format nostarch, verbose }) :
    dir ≠ some "" := by
  obtain ⟨⟨found, rest⟩, -, h⟩ := Option.bind_eq_some_iff.mp h
  dsimp only at h
  split at h
  · next command hanswer =>
    cases h
    exact absurd hanswer (ownAnswer?_ne_render found)
  · obtain ⟨command, hcommand, h⟩ := Option.bind_eq_some_iff.mp h
    cases h
    exact chaptersDir_ne_empty_of_command? hcommand

end Arguments

section Lines
variable {file : String} {cause : Failure}

theorem line_eq (text : String) : line text = withoutControls text ++ "\n" := by
  have hnewline : withoutControls "\n" = "\n" := rfl
  rw [line, withoutControls_append_right rfl isBreak_newline, hnewline]

theorem errorLine_eq (message : String) :
    errorLine message = "Error: " ++ (withoutControls message ++ "\n") := by
  rw [errorLine, line_eq, withoutControls_opening rfl rfl, String.append_assoc]

/-!
The handlers are asked in turn, so each one gets the failures that no handler before it takes.
-/

theorem isValueFailure_of_isNotFound (h : cause.isNotFound = true) :
    cause.isValueFailure = false := by
  cases cause <;> first | rfl | cases h

theorem isNotFound_of_isValueFailure (h : cause.isValueFailure = true) :
    cause.isNotFound = false := by
  rw [← Bool.not_eq_true]
  intro hfound
  cases h.symm.trans (isValueFailure_of_isNotFound hfound)

theorem isValueFailure_of_isRenderFailure (h : cause.isRenderFailure = true) :
    cause.isValueFailure = true := by
  cases cause <;> first | rfl | cases h

theorem isRenderFailure_of_not_isValueFailure (h : cause.isValueFailure = false) :
    cause.isRenderFailure = false := by
  rw [← Bool.not_eq_true] at h ⊢
  exact mt isValueFailure_of_isRenderFailure h

theorem failed_of_isNotFound (h : cause.isNotFound = true) :
    failed file cause = .refused ("Error: " ++ (withoutControls cause.message ++ "\n")) := by
  rw [failed, if_pos h, errorLine_eq]

theorem failed_of_isRenderFailure (h : cause.isRenderFailure = true) :
    failed file cause = .refused ("Error: Cannot render " ++ withoutControls file ++ " - " ++
      (withoutControls cause.message ++ "\n")) := by
  have hfound := isNotFound_of_isValueFailure (isValueFailure_of_isRenderFailure h)
  -- The blank of the dash keeps a sequence that the name of the file leaves open from going on.
  have hdash : (" - " ++ cause.message).toList.head? = some ' ' := by simp
  have hmessage : withoutControls ("Cannot render " ++ file ++ " - " ++ cause.message) =
      "Cannot render " ++ (withoutControls file ++ (" - " ++ withoutControls cause.message)) := by
    rw [String.append_assoc, withoutControls_append_right hdash isBreak_space,
      withoutControls_opening rfl rfl, withoutControls_opening rfl rfl, String.append_assoc]
  have hwords : "Error: Cannot render " = "Error: " ++ "Cannot render " := rfl
  rw [failed, hfound, if_neg Bool.false_ne_true, if_pos h, errorLine_eq, hmessage, hwords]
  simp only [String.append_assoc]

theorem failed_of_isValueFailure (h : cause.isValueFailure = true)
    (hrender : cause.isRenderFailure = false) :
    failed file cause =
      .refused ("Error: Invalid input - " ++ (withoutControls cause.message ++ "\n")) := by
  have hfound := isNotFound_of_isValueFailure h
  have hwords : "Error: Invalid input - " = "Error: " ++ "Invalid input - " := rfl
  rw [failed, hfound, hrender, if_neg Bool.false_ne_true, if_neg Bool.false_ne_true, if_pos h,
    errorLine_eq, withoutControls_opening rfl rfl, hwords]
  simp only [String.append_assoc]

theorem failed_of_not_isValueFailure (h : cause.isValueFailure = false)
    (hfound : cause.isNotFound = false) :
    failed file cause = .aborted cause := by
  rw [failed, h, hfound, isRenderFailure_of_not_isValueFailure h]
  rfl

theorem exists_withoutControls_message (h : cause.isNotFound = true) :
    ∃ rest, withoutControls cause.message = "No such " ++ rest := by
  have hwords := withoutControls_opening (s := "No such ") rfl rfl
  cases cause with
  | noSuchFile path =>
    refine ⟨withoutControls ("file: " ++ path), ?_⟩
    rw [← hwords, ← String.append_assoc]
    rfl
  | noSuchDirectory path =>
    refine ⟨withoutControls ("directory: " ++ path), ?_⟩
    rw [← hwords, ← String.append_assoc]
    rfl
  | _ => cases h

/-- Texts with different first words are different. -/
theorem append_ne_append {s t : String} (hst : ¬ s.toList <+: t.toList)
    (hts : ¬ t.toList <+: s.toList) (x y : String) : s ++ x ≠ t ++ y := by
  intro h
  have hs : s.toList <+: (s ++ x).toList := by simp
  have ht : t.toList <+: (s ++ x).toList := by simp [h]
  rcases List.prefix_or_prefix_of_prefix hs ht with h | h
  · exact hst h
  · exact hts h

theorem cannotRender_ne_invalidInput (x y : String) :
    "Error: Cannot render " ++ x ≠ "Error: Invalid input - " ++ y :=
  append_ne_append (by decide) (by decide) x y

theorem noSuch_ne_cannotRender (x y : String) :
    "Error: No such " ++ x ≠ "Error: Cannot render " ++ y :=
  append_ne_append (by decide) (by decide) x y

theorem noSuch_ne_invalidInput (x y : String) :
    "Error: No such " ++ x ≠ "Error: Invalid input - " ++ y :=
  append_ne_append (by decide) (by decide) x y

section Reports
variable {run : Run} (hrun : run.outcome = failed file cause)
include hrun

theorem reports_of_isNotFound (h : cause.isNotFound = true) : run.Reports file cause := by
  obtain ⟨rest, hrest⟩ := exists_withoutControls_message h
  rw [failed_of_isNotFound h] at hrun
  have herror : run.outcome.error? = some ("Error: No such " ++ (rest ++ "\n")) := by
    have hwords : "Error: No such " = "Error: " ++ "No such " := rfl
    rw [hrun, hrest, hwords, String.append_assoc, String.append_assoc]
    rfl
  have hvalue := isValueFailure_of_isNotFound h
  have hrender := isRenderFailure_of_not_isValueFailure hvalue
  exact {
    exitCode := by rw [hrun]; rfl
    output := by rw [hrun]; rfl
    unrenderable := by simp [herror, hrender, String.append_assoc, noSuch_ne_cannotRender]
    invalid := by simp [herror, hvalue, noSuch_ne_invalidInput]
    notFound := fun _ => by rw [hrun, String.append_assoc]; rfl }

theorem reports_of_isRenderFailure (h : cause.isRenderFailure = true) : run.Reports file cause := by
  have hfound := isNotFound_of_isValueFailure (isValueFailure_of_isRenderFailure h)
  rw [failed_of_isRenderFailure h] at hrun
  exact {
    exitCode := by rw [hrun]; rfl
    output := by rw [hrun]; rfl
    unrenderable := ⟨fun _ => h, fun _ => ⟨_, by rw [hrun]; rfl⟩⟩
    invalid := by simp [hrun, h, Outcome.error?, String.append_assoc, cannotRender_ne_invalidInput]
    notFound := by simp [hfound] }

theorem reports_of_isValueFailure (h : cause.isValueFailure = true)
    (hrender : cause.isRenderFailure = false) : run.Reports file cause := by
  have hfound := isNotFound_of_isValueFailure h
  rw [failed_of_isValueFailure h hrender] at hrun
  exact {
    exitCode := by rw [hrun]; rfl
    output := by rw [hrun]; rfl
    unrenderable := by
      simp [hrun, hrender, Outcome.error?, String.append_assoc,
        (cannotRender_ne_invalidInput _ _).symm]
    invalid := ⟨fun _ => ⟨h, hrender⟩, fun _ => ⟨_, by rw [hrun]; rfl⟩⟩
    notFound := by simp [hfound] }

theorem reports_of_not_isValueFailure (h : cause.isValueFailure = false)
    (hfound : cause.isNotFound = false) : run.Reports file cause := by
  have hrender := isRenderFailure_of_not_isValueFailure h
  rw [failed_of_not_isValueFailure h hfound] at hrun
  exact {
    exitCode := by rw [hrun]; rfl
    output := by rw [hrun]; rfl
    unrenderable := by simp [hrun, hrender, Outcome.error?]
    invalid := by simp [hrun, h, Outcome.error?]
    notFound := by simp [hfound] }

/-- A failed run reports its failure, whatever kind of failure it is. -/
theorem reports_of_failed : run.Reports file cause := by
  cases hfound : cause.isNotFound with
  | true => exact reports_of_isNotFound hrun hfound
  | false =>
    cases hvalue : cause.isValueFailure with
    | false => exact reports_of_not_isValueFailure hrun hvalue hfound
    | true =>
      cases hrender : cause.isRenderFailure with
      | true => exact reports_of_isRenderFailure hrun hrender
      | false => exact reports_of_isValueFailure hrun hvalue hrender

end Reports
end Lines

section Runs
variable {w : Workspace} {args : List String} {file format : String} {dir : Option String}
  {nostarch verbose : Bool}

theorem outcome_run
    (h : Invocation.ofArguments? args =
      some { command := .render file dir format nostarch, verbose }) :
    (run w args).outcome = render w file dir format nostarch := by
  simp only [run, h]
  rfl

theorem log_run_of_quiet {command : Command}
    (h : Invocation.ofArguments? args = some { command, verbose := false }) :
    (run w args).log = [] := by
  simp only [run, h]
  rfl

theorem render_of_ok {text : String} (hdir : dir.any w.files.isFile = false)
    (hformat : Format.names.contains format = true)
    (h : convert w (requestOf file dir format nostarch) = .ok text) :
    render w file dir format nostarch = .printed (withoutControls text ++ "\n") := by
  simp only [render, hdir, hformat, h, line_eq]
  rfl

theorem render_of_error {cause : Failure} (hdir : dir.any w.files.isFile = false)
    (hformat : Format.names.contains format = true)
    (h : convert w (requestOf file dir format nostarch) = .error cause) :
    render w file dir format nostarch = failed file cause := by
  simp only [render, hdir, hformat, h]
  rfl

/-- A run of `render` prints the whole text of its document or nothing, and tells why there is none.
The text is printed as it is exactly if it has no control sequences. Nothing is said of a document
that escapes half of a surrogate pair, as such a text is not made of characters. -/
theorem render_all_or_nothing
    (hargs : Invocation.ofArguments? args =
      some { command := .render file dir format nostarch, verbose })
    (hdir : dir.any w.files.isFile = false) (hformat : Format.names.contains format = true) :
    dir ≠ some "" ∧ (verbose = false → (run w args).log = []) ∧
      (∀ text, convert w (requestOf file dir format nostarch) = .ok text →
        (run w args).Prints text ∧
          ((run w args).outcome.output = text ++ "\n" ↔ ¬ HasControl text.toList)) ∧
      ∀ cause, cause ≠ .halfPair → convert w (requestOf file dir format nostarch) = .error cause →
        (run w args).Reports file cause := by
  have houtcome := outcome_run (w := w) hargs
  refine ⟨chaptersDir_ne_empty hargs, ?_, fun text htext => ?_, fun cause _ hcause => ?_⟩
  · rintro rfl
    exact log_run_of_quiet hargs
  · have hprinted := houtcome.trans (render_of_ok hdir hformat htext)
    refine ⟨⟨by rw [hprinted]; rfl, by rw [hprinted]; rfl, by rw [hprinted]; rfl⟩, ?_⟩
    rw [hprinted, ← withoutControls_eq_self_iff]
    exact String.append_left_inj "\n"
  · exact reports_of_failed (houtcome.trans (render_of_error hdir hformat hcause))

end Runs

/-- A listing that was copied with its colours from a terminal. -/
def colouredWorkspace : Workspace :=
  { bareWorkspace with input := Utf8.encode "```\n\x1b[34msrc\x1b[0m\n```\n".toList }

def colouredText : String :=
  "\n\n\\begin\x7blstlisting\x7d\n\x1b[34msrc\x1b[0m\n\\end\x7blstlisting\x7d\n\\noindent"

theorem convert_colouredWorkspace :
    convert colouredWorkspace (requestOf "-" none "auto" false) = .ok colouredText := by
  have hbook : Book.discover [] = Book.Registry.ofList [] := by
    rw [Book.discover, Book.chapterFiles, List.filter_nil, List.mergeSort_nil]
    rfl
  have hregistry : colouredWorkspace.chapters ((requestOf "-" none "auto" false).directory {}) =
      .ok (Book.Registry.ofList []) := congrArg Except.ok hbook
  unfold convert
  simp only [show colouredWorkspace.env = {} from rfl, hregistry]
  decide +kernel

theorem hasControl_colouredText : HasControl colouredText.toList := by
  have hparameters : ∀ c ∈ ['3', '4'], isParameter c = true := List.all_eq_true.mp rfl
  exact ⟨"\x1b[34m".toList, ⟨['3', '4'], 'm', hparameters, rfl, rfl⟩, by decide⟩

theorem render_all_or_nothing_coloured :
    Invocation.ofArguments? ["render", "-"] =
        some { command := .render "-" none "auto" false } ∧
      convert colouredWorkspace (requestOf "-" none "auto" false) = .ok colouredText ∧
      (run colouredWorkspace ["render", "-"]).Prints colouredText ∧
      (run colouredWorkspace ["render", "-"]).outcome.output ≠ colouredText ++ "\n" := by
  have hargs : Invocation.ofArguments? ["render", "-"] =
      some { command := .render "-" none "auto" false } := by decide
  obtain ⟨-, -, hprints, -⟩ :=
    render_all_or_nothing (w := colouredWorkspace) hargs rfl (by decide)
  obtain ⟨hprinted, hexact⟩ := hprints colouredText convert_colouredWorkspace
  refine ⟨hargs, convert_colouredWorkspace, hprinted, fun h => ?_⟩
  exact hexact.mp h hasControl_colouredText

end ChapterTex.CommandLine
