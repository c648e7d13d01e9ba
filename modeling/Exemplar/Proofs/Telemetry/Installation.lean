import Exemplar.Registry.Launch
import Mathlib.Data.List.Induction

namespace Exemplar

variable {β σ φ : Type}

namespace Subscriber

variable [FilterLanguage φ]

/-- What a subscriber answers to settings. -/
def told (s : Subscriber φ) (config : Config) : Except TelemetryError LogFormat :=
  (s.initialise config).1

/-- The subscriber that settings leave. -/
def next (s : Subscriber φ) (config : Config) : Subscriber φ := (s.initialise config).2

@[simp] theorem told_own (filter : φ) (format : LogFormat) (config : Config) :
    (own filter format).told config = .ok format := rfl

variable {s : Subscriber φ} {config : Config}

/-- Only an installed subscriber of the engine's answers to a filter that cannot be read. -/
theorem told_unreadable {cause : String} (hs : s = .absent ∨ s = .foreign)
    (h : (FilterLanguage.read config.logFilter : Except String φ) = .error cause) :
    s.told config = .error (.invalidFilter config.logFilter cause) := by
  rcases hs with rfl | rfl <;> simp only [told, initialise, h]

theorem told_absent {filter : φ} (h : FilterLanguage.read config.logFilter = .ok filter) :
    (absent : Subscriber φ).told config = .ok config.logFormat := by
  simp only [told, initialise, h]

theorem told_foreign {filter : φ} (h : FilterLanguage.read config.logFilter = .ok filter) :
    (foreign : Subscriber φ).told config = .error .alreadyInstalled := by
  simp only [told, initialise, h]

theorem next_of_ne_absent (hs : s ≠ .absent) : s.next config = s := by
  cases s with
  | absent => exact absurd rfl hs
  | own filter format => rfl
  | foreign =>
    cases h : (FilterLanguage.read config.logFilter : Except String φ) <;>
      simp only [next, initialise, h]

theorem next_absent_unreadable {cause : String}
    (h : (FilterLanguage.read config.logFilter : Except String φ) = .error cause) :
    (absent : Subscriber φ).next config = .absent := by
  simp only [next, initialise, h]

theorem next_absent {filter : φ} (h : FilterLanguage.read config.logFilter = .ok filter) :
    (absent : Subscriber φ).next config = .own filter config.logFormat := by
  simp only [next, initialise, h]

/-- An error installs nothing. -/
theorem next_of_error {e : TelemetryError} (h : s.told config = .error e) : s.next config = s := by
  by_cases hs : s = .absent
  · subst hs
    rcases hread : (FilterLanguage.read config.logFilter : Except String φ) with cause | filter
    · exact next_absent_unreadable hread
    · rw [told_absent hread] at h
      cases h
  · exact next_of_ne_absent hs

/-- Where there is no subscriber, settings succeed exactly if their filter can be read. -/
theorem told_absent_iff {format : LogFormat} :
    (absent : Subscriber φ).told config = .ok format ↔
      format = config.logFormat ∧ ∃ filter : φ, FilterLanguage.read config.logFilter = .ok filter := by
  rcases hread : (FilterLanguage.read config.logFilter : Except String φ) with cause | filter
  · rw [told_unreadable (.inl rfl) hread]
    constructor
    · nofun
    · rintro ⟨-, filter, hfilter⟩
      cases hfilter
  · rw [told_absent hread]
    constructor
    · intro h
      exact ⟨(Except.ok.inj h).symm, filter, rfl⟩
    · rintro ⟨rfl, -⟩
      rfl

theorem told_ne_ok_foreign {format : LogFormat} : (foreign : Subscriber φ).told config ≠ .ok format := by
  rcases hread : (FilterLanguage.read config.logFilter : Except String φ) with cause | filter
  · rw [told_unreadable (.inr rfl) hread]
    nofun
  · rw [told_foreign hread]
    nofun

/-- A filter is called invalid only if it cannot be read. -/
theorem read_of_told_invalidFilter {filter : String} {cause : String}
    (h : s.told config = .error (.invalidFilter filter cause)) :
    filter = config.logFilter ∧ (FilterLanguage.read filter : Except String φ) = .error cause := by
  rcases hread : (FilterLanguage.read config.logFilter : Except String φ) with cause' | f
  · have hs : s = .absent ∨ s = .foreign := by
      cases s with
      | absent => exact .inl rfl
      | foreign => exact .inr rfl
      | own filter format => cases h
    rw [told_unreadable hs hread] at h
    cases h
    exact ⟨rfl, hread⟩
  · cases s with
    | absent =>
      rw [told_absent hread] at h
      cases h
    | foreign =>
      rw [told_foreign hread] at h
      cases h
    | own filter format => cases h

theorem initialise_eq (s : Subscriber φ) (config : Config) :
    s.initialise config = (s.told config, s.next config) := rfl

end Subscriber

/-- What is done to a process. Each launch loads settings of its own, or fails to, and is made on a thread
of its own. -/
inductive Startup (β σ : Type) where
  | initialise (config : Config)
  | launch (exec : β → Action σ) (spec : Spec β σ) (loaded : Except ConfigError Config) (t : Thread σ)
  | installForeign

namespace Startup

/-- What comes back. -/
inductive Answer (σ : Type) where
  | initialised (result : Except TelemetryError LogFormat)
  | launched (result : Except LaunchError Summary) (t : Thread σ)
  | installedForeign (first : Bool)

/-- The settings with which a step tries to install the engine's subscriber. A launch that finds none
does not try. -/
def config? : Startup β σ → Option Config
  | initialise config => some config
  | launch _ _ loaded _ => loaded.toOption
  | installForeign => none

end Startup

namespace Process

variable [FilterLanguage φ]

/-- Does one step to a process. -/
def perform (p : Process β φ) : Startup β σ → Startup.Answer σ × Process β φ
  | .initialise config =>
    let (result, subscriber) := p.subscriber.initialise config
    (.initialised result, { p with subscriber })
  | .launch exec spec loaded t =>
    let (result, p, t) := p.launch exec spec loaded t
    (.launched result t, p)
  | .installForeign =>
    let (first, subscriber) := p.subscriber.installForeign
    (.installedForeign first, { p with subscriber })

/-- The process after steps. -/
def after (p : Process β φ) (done : List (Startup β σ)) : Process β φ :=
  done.foldl (fun p step => (p.perform step).2) p

/-- The format that a step is given, if it tries to install the engine's subscriber with success. -/
def grants? (p : Process β φ) (step : Startup β σ) : Option LogFormat :=
  step.config?.bind fun config => (p.subscriber.told config).toOption

/-- The format of the first success among steps. -/
def firstGrant? (p : Process β φ) : List (Startup β σ) → Option LogFormat
  | [] => none
  | step :: later => (p.grants? step).or ((p.perform step).2.firstGrant? later)

variable {p : Process β φ} {step : Startup β σ} {done later : List (Startup β σ)}

@[simp] theorem after_nil (p : Process β φ) : p.after ([] : List (Startup β σ)) = p := rfl

@[simp] theorem after_cons (p : Process β φ) (step : Startup β σ) (later : List (Startup β σ)) :
    p.after (step :: later) = (p.perform step).2.after later := rfl

@[simp] theorem after_append (p : Process β φ) (done later : List (Startup β σ)) :
    p.after (done ++ later) = (p.after done).after later :=
  List.foldl_append

theorem firstGrant?_append (p : Process β φ) (done later : List (Startup β σ)) :
    p.firstGrant? (done ++ later) = (p.firstGrant? done).or ((p.after done).firstGrant? later) := by
  induction done generalizing p with
  | nil => rfl
  | cons step done ih => rw [List.cons_append, firstGrant?, ih, after_cons, firstGrant?, Option.or_assoc]

section Launch

variable {exec : β → Action σ} {spec : Spec β σ} {loaded : Except ConfigError Config} {t : Thread σ}
  {config : Config}

theorem perform_launch_of_config_error {e : ConfigError}
    (h : loaded = .error e) :
    p.perform (.launch exec spec loaded t) = (.launched (.error (.config e)) t, p) := by
  simp only [perform, launch, h]

/-- Without a subscriber, the spec is not even asked for. -/
theorem perform_launch_of_telemetry_error {e : TelemetryError}
    (hconfig : loaded = .ok config)
    (h : p.subscriber.told config = .error e) :
    p.perform (.launch exec spec loaded t) = (.launched (.error (.telemetry e)) t, p) := by
  simp only [perform, launch, hconfig, Subscriber.initialise_eq, h, Subscriber.next_of_error h]

theorem perform_launch_of_granted {format : LogFormat}
    (hconfig : loaded = .ok config)
    (h : p.subscriber.told config = .ok format) :
    p.perform (.launch exec spec loaded t) =
      let q : Process β φ := { p with subscriber := p.subscriber.next config }
      let (result, q, t) := q.launchWith exec spec config format t
      (.launched result t, q) := by
  simp only [perform, launch, hconfig, Subscriber.initialise_eq, h]

theorem subscriber_launchWith (p : Process β φ) (format : LogFormat) :
    (p.launchWith exec spec config format t).2.1.subscriber = p.subscriber := by
  rw [launchWith]
  rcases p.announce spec format t with ⟨payload | _, t⟩ <;> rfl

/-- Once the subscriber is decided, only the run of the spec can fail. -/
theorem launchWith_error {format : LogFormat} {e : LaunchError}
    (h : (p.launchWith exec spec config format t).1 = .error e) :
    (∃ e', e = .spec e') ∨ ∃ payload, e = .panicked payload := by
  rw [launchWith] at h
  rcases hannounce : p.announce spec format t with ⟨payload | _, t₁⟩
  · rw [hannounce] at h
    exact .inr ⟨payload, (Except.error.inj h).symm⟩
  · rw [hannounce] at h
    rcases hrun : p.shared.runSpec exec spec config t₁ with ⟨(e' | payload) | summary, shared, t₂⟩
    · simp only [hrun] at h
      exact .inl ⟨e', (Except.error.inj h).symm⟩
    · simp only [hrun] at h
      exact .inr ⟨payload, (Except.error.inj h).symm⟩
    · simp only [hrun] at h
      cases h

end Launch

/-- The settings that a launch tries are those that were loaded. -/
theorem loaded_of_config? {exec : β → Action σ} {spec : Spec β σ} {loaded : Except ConfigError Config}
    {t : Thread σ} {config : Config}
    (h : (Startup.launch exec spec loaded t).config? = some config) :
    loaded = .ok config := by
  cases loaded with
  | error e => cases h
  | ok config' => rw [Option.some.inj h]

/-- A step whose settings are answered with an error changes nothing. -/
theorem perform_of_error {config : Config} {e : TelemetryError} (h : step.config? = some config)
    (htold : p.subscriber.told config = .error e) : (p.perform step).2 = p := by
  cases step with
  | initialise config' =>
    obtain rfl : config' = config := Option.some.inj h
    simp only [perform, Subscriber.initialise_eq, Subscriber.next_of_error htold]
  | launch exec spec loaded t =>
    rw [perform_launch_of_telemetry_error (loaded_of_config? h) htold]
  | installForeign => cases h

/-- A step that tries settings leaves the subscriber that these leave, whatever else it does. -/
theorem subscriber_perform_of_config {config : Config} (h : step.config? = some config) :
    (p.perform step).2.subscriber = p.subscriber.next config := by
  cases step with
  | initialise config' =>
    obtain rfl : config' = config := Option.some.inj h
    rfl
  | launch exec spec loaded t =>
    rcases htold : p.subscriber.told config with e | format
    · rw [perform_of_error h htold, Subscriber.next_of_error htold]
    · rw [perform_launch_of_granted (loaded_of_config? h) htold]
      exact subscriber_launchWith _ format
  | installForeign => cases h

theorem perform_of_no_config (hstep : step ≠ .installForeign) (h : step.config? = none) :
    (p.perform step).2 = p := by
  cases step with
  | initialise config => cases h
  | launch exec spec loaded t =>
    cases loaded with
    | error e => rw [perform_launch_of_config_error rfl]
    | ok config => cases h
  | installForeign => exact absurd rfl hstep

/-- A subscriber is never replaced. -/
theorem subscriber_perform_of_ne_absent (h : p.subscriber ≠ .absent) :
    (p.perform step).2.subscriber = p.subscriber := by
  rcases hconfig : step.config? with _ | config
  · by_cases hstep : step = .installForeign
    · subst hstep
      rcases hs : p.subscriber with _ | _ | _
      · exact absurd hs h
      · simp only [perform, Subscriber.installForeign, hs]
      · simp only [perform, Subscriber.installForeign, hs]
    · rw [perform_of_no_config hstep hconfig]
  · rw [subscriber_perform_of_config hconfig, Subscriber.next_of_ne_absent h]

theorem subscriber_after_of_ne_absent (h : p.subscriber ≠ .absent) (later : List (Startup β σ)) :
    (p.after later).subscriber = p.subscriber := by
  induction later generalizing p with
  | nil => rfl
  | cons step later ih =>
    have hstep : (p.perform step).2.subscriber = p.subscriber := subscriber_perform_of_ne_absent h
    rw [after_cons, ih (by rwa [hstep]), hstep]

/-- How the subscriber of a process stands after steps. -/
inductive Standing (start : Process β φ) (done : List (Startup β σ)) : Prop where
  | undecided (subscriber : (start.after done).subscriber = .absent)
      (first : start.firstGrant? done = none) (host : Startup.installForeign ∉ done)
  | granted (filter : φ) (format : LogFormat)
      (subscriber : (start.after done).subscriber = .own filter format)
      (first : start.firstGrant? done = some format)
  | hosted (subscriber : (start.after done).subscriber = .foreign)
      (first : start.firstGrant? done = none) (host : Startup.installForeign ∈ done)

/-- A step decides what is undecided or leaves it so; what is decided it leaves. -/
theorem Standing.perform {start : Process β φ} (h : Standing start done) (step : Startup β σ) :
    Standing start (done ++ [step]) := by
  have hfirst : start.firstGrant? (done ++ [step]) =
      (start.firstGrant? done).or ((start.after done).grants? step) := by
    rw [firstGrant?_append, firstGrant?, firstGrant?, Option.or_none]
  have hafter : start.after (done ++ [step]) = ((start.after done).perform step).2 := by
    rw [after_append, after_cons, after_nil]
  cases h with
  | undecided subscriber first host =>
    rw [first, Option.none_or] at hfirst
    by_cases hstep : step = .installForeign
    · subst hstep
      refine .hosted ?_ hfirst (List.mem_append_right _ (List.mem_singleton_self _))
      rw [hafter]
      simp only [Process.perform, subscriber, Subscriber.installForeign]
    · have hhost : Startup.installForeign ∉ done ++ [step] := by
        rw [List.mem_append, List.mem_singleton, not_or]
        exact ⟨host, Ne.symm hstep⟩
      rcases hconfig : step.config? with _ | config
      · refine .undecided ?_ ?_ hhost
        · rw [hafter, perform_of_no_config hstep hconfig, subscriber]
        · rw [hfirst, grants?, hconfig, Option.bind_none]
      · have hnext : (start.after (done ++ [step])).subscriber = Subscriber.absent.next config := by
          rw [hafter, subscriber_perform_of_config hconfig, subscriber]
        rw [grants?, hconfig, Option.bind_some, subscriber] at hfirst
        rcases hread : (FilterLanguage.read config.logFilter : Except String φ) with cause | filter
        · rw [Subscriber.told_unreadable (.inl rfl) hread] at hfirst
          rw [Subscriber.next_absent_unreadable hread] at hnext
          exact .undecided hnext hfirst hhost
        · rw [Subscriber.told_absent hread] at hfirst
          rw [Subscriber.next_absent hread] at hnext
          exact .granted filter config.logFormat hnext hfirst
  | granted filter format subscriber first =>
    refine .granted filter format ?_ ?_
    · rw [hafter, subscriber_perform_of_ne_absent (by rw [subscriber]; nofun), subscriber]
    · rw [hfirst, first, Option.some_or]
  | hosted subscriber first host =>
    refine .hosted ?_ ?_ (List.mem_append_left _ host)
    · rw [hafter, subscriber_perform_of_ne_absent (by rw [subscriber]; nofun), subscriber]
    · rw [hfirst, first, Option.none_or, grants?, subscriber]
      rcases step.config? with _ | config
      · rfl
      · rw [Option.bind_some]
        rcases htold : Subscriber.foreign.told config with e | format
        · rfl
        · exact absurd htold Subscriber.told_ne_ok_foreign

theorem standing {start : Process β φ} (h : start.subscriber = .absent) (done : List (Startup β σ)) :
    Standing start done := by
  induction done using List.reverseRecOn with
  | nil => exact .undecided h rfl List.not_mem_nil
  | append_singleton done step ih => exact ih.perform step

section Consequences

variable {start : Process β φ} (h : Standing start done)

include h

theorem Standing.own {format : LogFormat} (hfirst : start.firstGrant? done = some format) :
    ∃ filter, (start.after done).subscriber = .own filter format := by
  cases h with
  | undecided _ first _ => rw [first] at hfirst; cases hfirst
  | granted filter format' subscriber first =>
    rw [first] at hfirst
    cases hfirst
    exact ⟨filter, subscriber⟩
  | hosted _ first _ => rw [first] at hfirst; cases hfirst

theorem Standing.foreign (hfirst : start.firstGrant? done = none)
    (hhost : Startup.installForeign ∈ done) : (start.after done).subscriber = .foreign := by
  cases h with
  | undecided _ _ host => exact absurd hhost host
  | granted _ _ _ first => rw [first] at hfirst; cases hfirst
  | hosted subscriber _ _ => exact subscriber

theorem Standing.absent (hfirst : start.firstGrant? done = none)
    (hhost : Startup.installForeign ∉ done) : (start.after done).subscriber = .absent := by
  cases h with
  | undecided subscriber _ _ => exact subscriber
  | granted _ _ _ first => rw [first] at hfirst; cases hfirst
  | hosted _ _ host => exact absurd host hhost

end Consequences

/-- The law of a process to which steps were done: who decides the subscriber, and what a failing start
touches. -/
structure DecidedOnce (start : Process β φ) (done : List (Startup β σ)) : Prop where
  /-- The first success gives the format of its own settings. -/
  chooses : start.firstGrant? done = none → ∀ config format,
    (start.after done).subscriber.told config = .ok format → format = config.logFormat
  /-- From then on all settings get that format. -/
  keeps : ∀ format, start.firstGrant? done = some format → ∀ (later : List (Startup β σ)) config,
    (start.after (done ++ later)).subscriber.told config = .ok format
  /-- A filter is refused only if it cannot be read, and then nothing changes. -/
  refuses : ∀ (step : Startup β σ) config filter cause, step.config? = some config →
    (start.after done).subscriber.told config = .error (.invalidFilter filter cause) →
    filter = config.logFilter ∧ (FilterLanguage.read filter : Except String φ) = .error cause ∧
      ((start.after done).perform step).2 = start.after done
  /-- Unless the host comes in between, settings whose filter can be read still succeed after that. -/
  recovers : ∀ (step : Startup β σ) config filter cause, step.config? = some config →
    (start.after done).subscriber.told config = .error (.invalidFilter filter cause) →
    Startup.installForeign ∉ done → ∀ config' (filter' : φ),
    FilterLanguage.read config'.logFilter = .ok filter' →
    ((start.after done).perform step).2.subscriber.told config' = .ok config'.logFormat
  /-- Settings succeed after any success, and else if their filter can be read and the host has not
  installed a subscriber. -/
  succeeds_iff : ∀ config, (∃ format, (start.after done).subscriber.told config = .ok format) ↔
    (start.firstGrant? done).isSome ∨
      Startup.installForeign ∉ done ∧ ∃ filter : φ, FilterLanguage.read config.logFilter = .ok filter
  /-- If the host came first, no settings ever succeed. -/
  hosted : start.firstGrant? done = none → Startup.installForeign ∈ done →
    ∀ (later : List (Startup β σ)) config, (start.after (done ++ later)).subscriber.told config =
      match (FilterLanguage.read config.logFilter : Except String φ) with
      | .ok _ => .error .alreadyInstalled
      | .error cause => .error (.invalidFilter config.logFilter cause)
  /-- A launch without settings ends at once. -/
  unset : ∀ (exec : β → Action σ) (spec : Spec β σ) loaded t e,
    loaded = .error e →
    (start.after done).perform (.launch exec spec loaded t) =
      (.launched (.error (.config e)) t, start.after done)
  /-- A launch that is given no format ends without asking for the spec. -/
  silenced : ∀ (exec : β → Action σ) (spec : Spec β σ) loaded t config e,
    loaded = .ok config →
    (start.after done).subscriber.told config = .error e →
    (start.after done).perform (.launch exec spec loaded t) =
      (.launched (.error (.telemetry e)) t, start.after done)
  /-- Any other launch goes on to the spec, whose failures are of other kinds. -/
  launched : ∀ (exec : β → Action σ) (spec : Spec β σ) loaded t config format,
    loaded = .ok config →
    (start.after done).subscriber.told config = .ok format →
    ∃ result q t', (start.after done).perform (.launch exec spec loaded t) =
        (.launched result t', q) ∧
      ∀ e, result = .error e → (∃ e', e = .spec e') ∨ ∃ payload, e = .panicked payload

/-- Whatever is done to a process in which nobody has installed a subscriber, its telemetry is decided
once. -/
theorem decidedOnce (shared : Registry β) (done : List (Startup β σ)) :
    (⟨.absent, shared⟩ : Process β φ).DecidedOnce done := by
  generalize hstart : (⟨.absent, shared⟩ : Process β φ) = start
  have hs : Standing start done := standing (by rw [← hstart]) done
  constructor
  case chooses =>
    intro hfirst config format htold
    by_cases hhost : Startup.installForeign ∈ done
    · rw [hs.foreign hfirst hhost] at htold
      exact absurd htold Subscriber.told_ne_ok_foreign
    · rw [hs.absent hfirst hhost, Subscriber.told_absent_iff] at htold
      exact htold.1
  case keeps =>
    intro format hfirst later config
    obtain ⟨filter, hsub⟩ := hs.own hfirst
    have hne : (start.after done).subscriber ≠ .absent := by rw [hsub]; nofun
    rw [after_append, subscriber_after_of_ne_absent hne, hsub, Subscriber.told_own]
  case refuses =>
    intro step config filter cause hconfig htold
    obtain ⟨hfilter, hread⟩ := Subscriber.read_of_told_invalidFilter htold
    exact ⟨hfilter, hread, perform_of_error hconfig htold⟩
  case recovers =>
    intro step config filter cause hconfig htold hhost config' filter' hread
    rcases hfirst : start.firstGrant? done with _ | format
    · rw [perform_of_error hconfig htold, hs.absent hfirst hhost, Subscriber.told_absent hread]
    · obtain ⟨own, hsub⟩ := hs.own hfirst
      rw [hsub, Subscriber.told_own] at htold
      cases htold
  case succeeds_iff =>
    intro config
    rcases hfirst : start.firstGrant? done with _ | format
    · by_cases hhost : Startup.installForeign ∈ done
      · simp [hs.foreign hfirst hhost, hhost, Subscriber.told_ne_ok_foreign]
      · simp [hs.absent hfirst hhost, hhost, Subscriber.told_absent_iff]
    · obtain ⟨filter, hsub⟩ := hs.own hfirst
      simp [hsub]
  case hosted =>
    intro hfirst hhost later config
    have hsub := hs.foreign hfirst hhost
    have hne : (start.after done).subscriber ≠ .absent := by rw [hsub]; nofun
    rw [after_append, subscriber_after_of_ne_absent hne, hsub]
    rcases hread : (FilterLanguage.read config.logFilter : Except String φ) with cause | filter
    · rw [Subscriber.told_unreadable (.inr rfl) hread]
    · rw [Subscriber.told_foreign hread]
  case unset =>
    intro exec spec loaded t e hconfig
    exact perform_launch_of_config_error hconfig
  case silenced =>
    intro exec spec loaded t config e hconfig htold
    exact perform_launch_of_telemetry_error hconfig htold
  case launched =>
    intro exec spec loaded t config format hconfig htold
    refine ⟨_, _, _, perform_launch_of_granted hconfig htold, ?_⟩
    intro e he
    exact launchWith_error he

/-- A filter that cannot be read decides nothing, JSON is chosen, and the host comes too late. -/
example :
    let unreadable : Config := Config.default.withLogFilter "sprout=loudest"
    let json : Config := Config.default.withLogFormat .json
    let start : Process Unit Filter := ⟨.absent, .empty⟩
    let done : List (Startup Unit Unit) := [.initialise unreadable, .initialise json, .installForeign]
    start.firstGrant? done = some .json ∧
      (start.after done).subscriber.told unreadable = .ok .json := by
  decide +kernel

end Process

end Exemplar
