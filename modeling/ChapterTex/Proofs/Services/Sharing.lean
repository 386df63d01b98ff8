import ChapterTex.Proofs.Services.Search

/-!
Whole runs of a container. Everything that happens in a run, also inside of resolutions, is written
down in its chronicle, and there every key has one service between two registrations.
-/
namespace ChapterTex

namespace Event

/-- What the factory makes after these events: its parts are the services that its needs have. -/
def MadeBy (factory : Factory) (service : Service) (log : List Event) : Prop :=
  ∃ parts, service = .built factory.name (log.countP isBuilt + 1) parts ∧
    factory.needs.Forall₂ (fun need part => Current need part log) parts

/-- The event makes or returns a service of the key. -/
def Gives (event : Event) (key : String) (service : Service) : Prop :=
  event = .built key service ∨ event = .returned key service

/-- Services are shared. A key gives the same service until it is registered again, whatever happens
to other keys, and its factory runs at most once in that time. Services that are built twice are
different, and after a registration a key gives what the new factory has made since. -/
structure Shares (log : List Event) : Prop where
  same : ∀ us event vs key service service' ws,
    log = us ++ event :: (vs ++ .returned key service' :: ws) →
      event.Gives key service → Untouched key vs → service' = service
  once : ∀ us key service vs service' ws,
    log = us ++ .built key service :: (vs ++ .built key service' :: ws) →
      ∃ factory, .registered key factory ∈ vs
  distinct : ∀ us key service vs key' service' ws,
    log = us ++ .built key service :: (vs ++ .built key' service' :: ws) → service ≠ service'
  fresh : ∀ us key factory vs service ws,
    log = us ++ .registered key factory :: (vs ++ .returned key service :: ws) →
      Untouched key vs → ∃ vs₁ vs₂, vs = vs₁ ++ .built key service :: vs₂ ∧
        MadeBy factory service (us ++ .registered key factory :: vs₁)

end Event

namespace Container

inductive Step where
  | register (key : String) (factory : Factory)
  | resolve (key : String)

def step (c : Container) : Step → Container
  | .register key factory => c.register key factory
  | .resolve key => (c.resolve key).2

def run (c : Container) (steps : List Step) : Container := steps.foldl step c

/-- At no time when a key is resolved is there a cycle of needs. -/
def AcyclicRun (c : Container) (steps : List Step) : Prop :=
  ∀ before key after, steps = before ++ .resolve key :: after → Acyclic (c.run before).factories

/-- All the events of a run. A resolution that succeeds returns its service at its end. -/
inductive Chronicle : Container → List Step → List Event → Prop
  | nil (c : Container) : Chronicle c [] []
  | registered {c key factory steps log} (hrest : Chronicle (c.register key factory) steps log) :
      Chronicle c (.register key factory :: steps) (.registered key factory :: log)
  | resolved {c key service c' log steps log'} (hresolve : c.resolve key = (.ok service, c'))
      (hlog : ResolvesAll [key] c (log ++ [.returned key service]) (.ok [service]) c')
      (hrest : Chronicle c' steps log') :
      Chronicle c (.resolve key :: steps) (log ++ .returned key service :: log')
  | failed {c key e c' log steps log'} (hresolve : c.resolve key = (.error e, c'))
      (hlog : ResolvesAll [key] c log (.error e) c') (hrest : Chronicle c' steps log') :
      Chronicle c (.resolve key :: steps) (log ++ log')

variable {c c' : Container} {key : String} {service : Service} {log : List Event}
  {steps : List Step}

theorem Happens.keeps {event : Event} (h : Happens c event c')
    (hevent : event.Gives key service) :
    c'.services.get? key = some service := by
  cases h with
  | registered => rcases hevent with heq | heq <;> cases heq
  | built =>
    rcases hevent with heq | heq <;> cases heq
    exact get?_services_keep_self _ _ _
  | returned hkept =>
    rcases hevent with heq | heq <;> cases heq
    exact hkept

section
variable {us vs ws : List Event} {event event' : Event} {key' : String} {service' : Service}

/-- Two events in a history, and what happens between them. -/
theorem History.split_two (h : History c (us ++ event :: (vs ++ event' :: ws)) c') :
    ∃ c₁ c₂ c₃ c₄, History c us c₁ ∧ Happens c₁ event c₂ ∧ History c₂ vs c₃ ∧
      Happens c₃ event' c₄ := by
  obtain ⟨c₁, c₂, hus, hevent, hrest⟩ := h.split_cons
  obtain ⟨c₃, c₄, hvs, hevent', -⟩ := hrest.split_cons
  exact ⟨c₁, c₂, c₃, c₄, hus, hevent, hvs, hevent'⟩

theorem History.eq_of_untouched
    (h : History c (us ++ event :: (vs ++ .returned key service' :: ws)) c')
    (hevent : event.Gives key service) (hvs : Event.Untouched key vs) : service' = service := by
  obtain ⟨c₁, c₂, c₃, c₄, -, hfirst, hbetween, hsecond⟩ := h.split_two
  have hkept := hbetween.kept hvs (hfirst.keeps hevent)
  cases hsecond with
  | returned hkept' => exact Option.some.inj (hkept'.symm.trans hkept)

/-- Between two runs of the factory of a key, the key is registered. -/
theorem History.exists_registered
    (h : History c (us ++ .built key service :: (vs ++ .built key service' :: ws)) c') :
    ∃ factory, .registered key factory ∈ vs := by
  obtain ⟨c₁, c₂, c₃, c₄, -, hfirst, hbetween, hsecond⟩ := h.split_two
  by_contra! hvs
  have hkept := hbetween.kept hvs (hfirst.keeps (.inl rfl))
  cases hsecond with
  | built hnew =>
    rw [hnew] at hkept
    cases hkept

theorem History.ne_of_built
    (h : History c (us ++ .built key service :: (vs ++ .built key' service' :: ws)) c') :
    service ≠ service' := by
  obtain ⟨c₁, c₂, c₃, c₄, -, hfirst, hbetween, hsecond⟩ := h.split_two
  have hcount := hbetween.count_eq
  cases hfirst with
  | built =>
    cases hsecond with
    | built =>
      intro heq
      simp only [make, Service.built.injEq] at heq
      rw [count_keep] at hcount
      omega

/-- What a container that started empty builds is made from the current services of the needs. -/
theorem History.madeBy {factory : Factory} {c₁ : Container} (h : History {} log c)
    (hbuilt : Happens c (.built key service) c₁)
    (hfactory : c.factories.get? key = some factory) : Event.MadeBy factory service log := by
  cases hbuilt with
  | @built _ factory' parts _ hfactory' hparts =>
    obtain rfl : factory' = factory := Option.some.inj (hfactory'.symm.trans hfactory)
    refine ⟨parts, ?_, hparts.imp ?_⟩
    · rw [make, h.count_eq, Nat.zero_add]
    · intro need part hpart
      rcases h.current hpart with ⟨hempty, -⟩ | hcurrent
      · cases hempty
      · exact hcurrent

/-- What a key gives after it was registered, the new factory has made since. -/
theorem History.fresh {factory : Factory}
    (h : History {} (us ++ .registered key factory :: (vs ++ .returned key service :: ws)) c)
    (hvs : Event.Untouched key vs) :
    ∃ vs₁ vs₂, vs = vs₁ ++ .built key service :: vs₂ ∧
      Event.MadeBy factory service (us ++ .registered key factory :: vs₁) := by
  obtain ⟨c₁, c₂, c₃, c₄, hbefore, hfirst, hbetween, hsecond⟩ := h.split_two
  have hkept : c₃.services.get? key = some service := by
    cases hsecond with
    | returned hkept => exact hkept
  have hstart : c₂.services.get? key = none ∧ c₂.factories.get? key = some factory := by
    cases hfirst with
    | registered => simp
  obtain ⟨hnew, hfactory⟩ := hstart
  rcases hbetween.current hkept with ⟨hold, -⟩ | ⟨vs₁, vs₂, rfl, -⟩
  · rw [hnew] at hold
    cases hold
  · obtain ⟨c₅, c₆, hneeds, hbuilt, -⟩ := hbetween.split_cons
    have hvs₁ : Event.Untouched key vs₁ :=
      fun factory hmem => hvs factory (List.mem_append_left _ hmem)
    have hlog : History {} (us ++ .registered key factory :: vs₁) c₅ :=
      hbefore.append (.cons hfirst hneeds)
    exact ⟨vs₁, vs₂, rfl, hlog.madeBy hbuilt ((hneeds.factory_eq hvs₁).trans hfactory)⟩

end

/-- Every history of a container that starts empty shares services. -/
theorem History.shares (h : History {} log c) : Event.Shares log where
  same := by
    rintro us event vs key service service' ws rfl hevent hvs
    exact h.eq_of_untouched hevent hvs
  once := by
    rintro us key service vs service' ws rfl
    exact h.exists_registered
  distinct := by
    rintro us key service vs key' service' ws rfl
    exact h.ne_of_built
  fresh := by
    rintro us key factory vs service ws rfl hvs
    exact h.fresh hvs

theorem AcyclicRun.tail {s : Step} (h : AcyclicRun c (s :: steps)) :
    AcyclicRun (c.step s) steps := by
  rintro before key after rfl
  exact h (s :: before) key after rfl

theorem AcyclicRun.left {steps' : List Step} (h : AcyclicRun c (steps ++ steps')) :
    AcyclicRun c steps := by
  rintro before key after rfl
  exact h before key (after ++ steps') (by rw [List.append_assoc]; rfl)

theorem resolve_of_kept (h : c.services.get? key = some service) :
    c.resolve key = (.ok service, c) := by
  simp only [resolve, resolveWithin, h]

theorem ResolvesAll.returned_last (h : ResolvesAll [key] c log (.ok [service]) c') :
    ∃ front, log = front ++ [.returned key service] := by
  generalize hkeys : [key] = keys at h
  generalize houtcome : Except.ok [service] = outcome at h
  cases h with
  | nil => cases hkeys
  | unregistered => cases houtcome
  | failed => cases houtcome
  | kept hkept hrest =>
    cases hkeys
    cases hrest
    cases houtcome
    exact ⟨[], rfl⟩
  | @built _ _ _ _ log parts c₁ _ _ _ _ _ _ hrest =>
    cases hkeys
    cases hrest
    cases houtcome
    exact ⟨log ++ [.built key _], by rw [List.append_assoc]; rfl⟩

theorem exists_chronicle (h : AcyclicRun c steps) : ∃ log, Chronicle c steps log := by
  induction steps generalizing c with
  | nil => exact ⟨[], .nil c⟩
  | cons s steps ih =>
    cases s with
    | register key factory =>
      obtain ⟨log, hlog⟩ := ih h.tail
      exact ⟨_, .registered hlog⟩
    | resolve key =>
      obtain ⟨log', hlog'⟩ := ih h.tail
      have hacyclic : Acyclic c.factories := h [] key steps rfl
      obtain ⟨log, hlog⟩ := exists_resolvesAll hacyclic key
      rcases hresolve : c.resolve key with ⟨e | service, c'⟩
      · rw [step, hresolve] at hlog'
        rw [hresolve] at hlog
        exact ⟨_, .failed hresolve hlog hlog'⟩
      · rw [step, hresolve] at hlog'
        rw [hresolve] at hlog
        obtain ⟨front, rfl⟩ := ResolvesAll.returned_last hlog
        exact ⟨_, .resolved hresolve hlog hlog'⟩

theorem Chronicle.history (h : Chronicle c steps log) (hacyclic : AcyclicRun c steps) :
    History c log (c.run steps) := by
  induction h with
  | nil c => exact .nil c
  | registered _ ih => exact .cons (.registered _ _ _) (ih hacyclic.tail)
  | @resolved c key service c' log steps log' hresolve hlog hrest ih =>
    have hstep : c.step (.resolve key) = c' := by rw [step, hresolve]
    have hsteps : AcyclicRun c' steps := hstep ▸ hacyclic.tail
    have hfirst := (hlog.history (hacyclic [] key steps rfl)).1.append (ih hsteps)
    rw [List.append_assoc, List.singleton_append] at hfirst
    rwa [run, List.foldl_cons, hstep]
  | @failed c key e c' log steps log' hresolve hlog hrest ih =>
    have hstep : c.step (.resolve key) = c' := by rw [step, hresolve]
    have hsteps : AcyclicRun c' steps := hstep ▸ hacyclic.tail
    rw [run, List.foldl_cons, hstep]
    exact (hlog.history (hacyclic [] key steps rfl)).1.append (ih hsteps)

/-- Runs of a container share services. A run without cycles of needs has a chronicle, and a
chronicle tells of one service for each key between two registrations. A key that has a service is
resolved to it until it is registered again. A resolution that fails names the first missing key of
the search through the needs, and keeps the services that were built before. -/
theorem runs_share_services (h : AcyclicRun {} steps) :
    (∃ log, Chronicle {} steps log) ∧ (∀ log, Chronicle {} steps log → Event.Shares log) ∧
      ∀ before key after, steps = before ++ .resolve key :: after →
        (∀ us event vs service, Chronicle {} before (us ++ event :: vs) → event.Gives key service →
          Event.Untouched key vs → (run {} before).resolve key = (.ok service, run {} before)) ∧
        ∀ e, ((run {} before).resolve key).1 = .error e →
          (run {} before).Fails key e ((run {} before).resolve key).2 := by
  refine ⟨exists_chronicle h, fun log hlog => (hlog.history h).shares, ?_⟩
  rintro before key after rfl
  constructor
  · intro us event vs service hlog hevent hvs
    obtain ⟨c₁, c₂, -, hhappens, hrest⟩ := (hlog.history h.left).split_cons
    exact resolve_of_kept (hrest.kept hvs (hhappens.keeps hevent))
  · intro e he
    exact fails_of_resolve (h before key after rfl) he

/-! Ranks rule out cycles: a factory needs only keys of lower rank. -/

def Descends (rank : String → Nat) (factories : Record Factory) : Prop :=
  ∀ key need, Needs factories key need → rank need < rank key

theorem Descends.acyclic {rank : String → Nat} {factories : Record Factory}
    (h : Descends rank factories) : Acyclic factories := by
  have hpath : ∀ key need, Relation.TransGen (Needs factories) key need → rank need < rank key := by
    intro key need hpath
    induction hpath with
    | single hneed => exact h _ _ hneed
    | tail _ hneed ih => exact Nat.lt_trans (h _ _ hneed) ih
  exact fun key hcycle => Nat.lt_irrefl _ (hpath key key hcycle)

theorem acyclicRun_of_descends {rank : String → Nat} (hc : Descends rank c.factories)
    (hsteps : ∀ key factory, .register key factory ∈ steps → ∀ need ∈ factory.needs,
      rank need < rank key) : AcyclicRun c steps := by
  rintro before key after rfl
  suffices hdescends : Descends rank (c.run before).factories from hdescends.acyclic
  induction before generalizing c with
  | nil => exact hc
  | cons s before ih =>
    refine ih ?_ fun key factory hmem => hsteps key factory (List.mem_cons_of_mem s hmem)
    cases s with
    | register key' factory =>
      rintro query need ⟨factory', hget, hneed⟩
      rw [step] at hget
      by_cases hquery : query = key'
      · subst hquery
        rw [get?_factories_register_self] at hget
        cases hget
        exact hsteps query factory List.mem_cons_self need hneed
      · rw [get?_factories_register_of_ne c key' factory hquery] at hget
        exact hc query need ⟨factory', hget, hneed⟩
    | resolve key' =>
      obtain ⟨log, hlog⟩ := exists_resolvesAll hc.acyclic key'
      rw [step, hlog.factories_eq]
      exact hc

/-- Two services share a third one, which is registered again; a fourth one lacks one of its
needs. -/
def wiring : List Step :=
  [.register "io" ⟨"FileRepository", []⟩,
   .register "load" ⟨"TokenLoader", ["io"]⟩,
   .register "index" ⟨"IndexService", ["io"]⟩,
   .register "convert" ⟨"ConversionService", ["load", "index"]⟩,
   .resolve "convert",
   .register "io" ⟨"CachedRepository", []⟩,
   .register "report" ⟨"ReportService", ["io", "log", "load"]⟩,
   .resolve "report",
   .resolve "convert"]

theorem runs_share_services_wiring :
    AcyclicRun {} wiring ∧ (∃ log, Chronicle {} wiring log ∧ Event.Shares log) ∧
      ((run {} (wiring.take 7)).resolve "report").1 = .error (.unregistered "log") ∧
      (run {} (wiring.take 7)).Fails "report" (.unregistered "log")
        ((run {} (wiring.take 7)).resolve "report").2 := by
  have hdescends : Descends String.length ({} : Container).factories := by
    rintro key need ⟨factory, hfactory, -⟩
    cases hfactory
  have hacyclic : AcyclicRun {} wiring := by
    refine acyclicRun_of_descends hdescends ?_
    intro key factory hmem
    simp only [wiring, List.mem_cons, Step.register.injEq, reduceCtorEq, false_or, List.not_mem_nil,
      or_false] at hmem
    rcases hmem with ⟨rfl, rfl⟩ | ⟨rfl, rfl⟩ | ⟨rfl, rfl⟩ | ⟨rfl, rfl⟩ | ⟨rfl, rfl⟩ | ⟨rfl, rfl⟩ <;>
      decide
  obtain ⟨⟨log, hlog⟩, hshares, hresolves⟩ := runs_share_services hacyclic
  have hfailure : ((run {} (wiring.take 7)).resolve "report").1 =
      .error (.unregistered "log") := rfl
  refine ⟨hacyclic, ⟨log, hlog, hshares log hlog⟩, hfailure, ?_⟩
  exact (hresolves (wiring.take 7) "report" [.resolve "convert"] rfl).2 _ hfailure

end Container
end ChapterTex
