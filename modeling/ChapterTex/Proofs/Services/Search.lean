import ChapterTex.Proofs.Services.History

/-!
Resolutions that fail. Which key is at fault and what is built before can be read off the container
as it was: by a search through the needs, depth first and from left to right.
-/
namespace ChapterTex.Container

/-- A search for keys without a factory, over what is neither kept nor completed. From the completed
keys and the keys to go it gives all the completed keys, and the key at which it stops. -/
inductive Search (c : Container) : List String → List String → List String → Option String → Prop
  | nil (done : List String) : Search c done [] done none
  | known {done key rest done' missing} (hknown : (c.services.get? key).isSome ∨ key ∈ done)
      (hrest : Search c done rest done' missing) : Search c done (key :: rest) done' missing
  | missing {done key} (rest : List String) (hnew : c.services.get? key = none) (hdone : key ∉ done)
      (hnone : c.factories.get? key = none) : Search c done (key :: rest) done (some key)
  | inside {done key factory done' missing} (rest : List String) (hnew : c.services.get? key = none)
      (hdone : key ∉ done) (hfactory : c.factories.get? key = some factory)
      (hneeds : Search c done factory.needs done' (some missing)) :
      Search c done (key :: rest) done' (some missing)
  | completed {done key factory done₁ rest done' missing} (hnew : c.services.get? key = none)
      (hdone : key ∉ done) (hfactory : c.factories.get? key = some factory)
      (hneeds : Search c done factory.needs done₁ none)
      (hrest : Search c (done₁ ++ [key]) rest done' missing) :
      Search c done (key :: rest) done' missing

/-- The second container is the first one, and has services for the completed keys besides. -/
structure Completed (c : Container) (done : List String) (c' : Container) : Prop where
  factories : c'.factories = c.factories
  services : ∀ key, (c'.services.get? key).isSome ↔ (c.services.get? key).isSome ∨ key ∈ done

/-- What a failing resolution does. The search finds the missing key, and the keys that it completed
are the ones that get services. Nothing else changes, and the key itself gets no service. -/
structure Fails (c : Container) (key : String) (e : Failure) (c' : Container) : Prop where
  search : ∃ done missing, Search c [] [key] done (some missing) ∧ e = .unregistered missing ∧
    c.Completed done c'
  kept : ∀ other service, c.services.get? other = some service →
    c'.services.get? other = some service
  requested : c'.services.get? key = none

variable {c c₁ c₂ : Container} {key : String} {keys done : List String} {log : List Event}
  {outcome : Except Failure (List Service)}

theorem Completed.get?_eq_none_iff (h : c.Completed done c₁) :
    c₁.services.get? key = none ↔ c.services.get? key = none ∧ key ∉ done := by
  rw [← Option.not_isSome_iff_eq_none, ← Option.not_isSome_iff_eq_none, h.services, not_or]

theorem Completed.keep (h : c.Completed done c₁) (key : String) (service : Service) :
    c.Completed (done ++ [key]) (c₁.keep key service) := by
  refine ⟨h.factories, fun query => ?_⟩
  rw [List.mem_append, List.mem_singleton]
  by_cases hquery : query = key
  · subst hquery
    simp
  · rw [get?_services_keep_of_ne c₁ key service hquery, h.services]
    simp [hquery]

/-- A resolution ends the way the search tells. -/
def Reports (missing : Option String) (outcome : Except Failure (List Service)) : Prop :=
  match missing with
  | none => ∃ parts, outcome = .ok parts
  | some key => outcome = .error (.unregistered key)

theorem Reports.map {missing : Option String} (f : List Service → List Service)
    (h : Reports missing outcome) : Reports missing (outcome.map f) := by
  cases missing with
  | none =>
    obtain ⟨parts, rfl⟩ := h
    exact ⟨f parts, rfl⟩
  | some key =>
    obtain rfl : outcome = .error (.unregistered key) := h
    rfl

/-- A resolution follows the search in a container from which it started. -/
theorem ResolvesAll.search (h : ResolvesAll keys c₁ log outcome c₂) (hc : c.Completed done c₁) :
    ∃ done' missing, Search c done keys done' missing ∧ Reports missing outcome ∧
      c.Completed done' c₂ := by
  induction h generalizing done with
  | nil => exact ⟨done, none, .nil done, ⟨[], rfl⟩, hc⟩
  | kept hkept _ ih =>
    obtain ⟨done', missing, hsearch, hreports, hc'⟩ := ih hc
    have hknown := (hc.services _).mp (Option.isSome_of_eq_some hkept)
    exact ⟨done', missing, .known hknown hsearch, hreports.map _, hc'⟩
  | unregistered rest hnew hnone =>
    obtain ⟨hnew, hdone⟩ := hc.get?_eq_none_iff.mp hnew
    rw [hc.factories] at hnone
    exact ⟨done, _, .missing rest hnew hdone hnone, rfl, hc⟩
  | failed rest hnew hfactory _ ih =>
    obtain ⟨hnew, hdone⟩ := hc.get?_eq_none_iff.mp hnew
    rw [hc.factories] at hfactory
    obtain ⟨done', missing, hsearch, hreports, hc'⟩ := ih hc
    cases missing with
    | none =>
      obtain ⟨parts, hparts⟩ := hreports
      cases hparts
    | some key => exact ⟨done', some key, .inside rest hnew hdone hfactory hsearch, hreports, hc'⟩
  | built hnew hfactory _ _ ihneeds ihrest =>
    obtain ⟨hnew, hdone⟩ := hc.get?_eq_none_iff.mp hnew
    rw [hc.factories] at hfactory
    obtain ⟨done₁, missing, hneeds, hreports, hc₁⟩ := ihneeds hc
    cases missing with
    | some key => cases hreports
    | none =>
      obtain ⟨done', missing, hsearch, hreports, hc'⟩ := ihrest (hc₁.keep _ _)
      exact ⟨done', missing, .completed hnew hdone hfactory hneeds hsearch, hreports.map _, hc'⟩

theorem ResolvesAll.requested {e : Failure} (h : ResolvesAll [key] c log (.error e) c₁)
    (hacyclic : Acyclic c.factories) : c₁.services.get? key = none := by
  generalize hkeys : [key] = keys at h
  generalize houtcome : Except.error e = outcome at h
  cases h with
  | nil => cases hkeys
  | unregistered rest hnew =>
    cases hkeys
    exact hnew
  | @kept key' rest c service log outcome c' hkept hrest =>
    cases hkeys
    cases hrest
    cases houtcome
  | @built key' rest c factory log parts c' log' outcome c₂ hnew hfactory hneeds hrest =>
    cases hkeys
    cases hrest
    cases houtcome
  | @failed key' c factory log e' c' rest hnew hfactory hneeds =>
    cases hkeys
    exact hneeds.key_not_kept (hneeds.history hacyclic).1 hacyclic hnew hfactory

theorem fails_of_resolve {e : Failure} (hacyclic : Acyclic c.factories)
    (h : (c.resolve key).1 = .error e) : c.Fails key e (c.resolve key).2 := by
  obtain ⟨log, hlog⟩ := exists_resolvesAll hacyclic key
  rw [h] at hlog
  have hlog : ResolvesAll [key] c log (.error e) (c.resolve key).2 := hlog
  refine ⟨?_, fun other service hkept => ?_, hlog.requested hacyclic⟩
  · have hstart : c.Completed [] c := ⟨rfl, by simp⟩
    obtain ⟨done, missing, hsearch, hreports, hdone⟩ := hlog.search hstart
    cases missing with
    | none =>
      obtain ⟨parts, hparts⟩ := hreports
      cases hparts
    | some missing =>
      cases hreports
      exact ⟨done, missing, hsearch, rfl, hdone⟩
  · exact (hlog.history hacyclic).1.kept hlog.untouched hkept

end ChapterTex.Container
