import Exemplar.Proofs.Bridge.Containment
import Exemplar.Proofs.Registry.Refusals

namespace Exemplar

variable {β σ ρ : Type}

/-- What a host asks of a bridge. It brings a recorder for each run. -/
inductive HostRequest (ρ : Type) where
  | setCurrent (id : String)
  | current
  | displayName
  | displayNameOf (id : String)
  | subject (id : String)
  | run (id : String) (recorder : Recorder ρ)
  | runCurrent (recorder : Recorder ρ)

/-- What a host is told. -/
inductive Reply (β : Type) where
  | done
  | current (id : Option String)
  | name (result : Except SpecError String)
  | subject (result : Except SpecError (Example β))
  | outcome (result : Except SpecError Outcome)

/-- The error with which a request failed, if it did. -/
def Reply.error? : Reply β → Option SpecError
  | name (.error e) => some e
  | subject (.error e) => some e
  | outcome (.error e) => some e
  | _ => none

namespace HostRequest

/-- The identifier that a request makes current. -/
def set? : HostRequest ρ → Option String
  | setCurrent id => some id
  | _ => none

/-- The identifier that was made current last. -/
def lastSet (asked : List (HostRequest ρ)) : Option String := (asked.filterMap set?).getLast?

/-- The request is about whatever is current. -/
def UsesCurrent : HostRequest ρ → Prop
  | displayName => True
  | runCurrent _ => True
  | _ => False

/-- The identifier that a request is about, given the current one. -/
def target? (current : Option String) : HostRequest ρ → Option String
  | displayName => current
  | displayNameOf id => some id
  | subject id => some id
  | run id _ => some id
  | runCurrent _ => current
  | _ => none

/-- The identifier of the invocation that a request runs, given the current one. -/
def runs? (current : Option String) : HostRequest ρ → Option String
  | run id _ => some id
  | runCurrent _ => current
  | _ => none

/-- The request about an identifier in place of the current one. -/
def about (id : String) : HostRequest ρ → HostRequest ρ
  | displayName => displayNameOf id
  | runCurrent recorder => run id recorder
  | q => q

/-- The request with a recorder that notes what it is told. -/
def recalling : HostRequest ρ → HostRequest (ρ × List Told)
  | setCurrent id => setCurrent id
  | current => current
  | displayName => displayName
  | displayNameOf id => displayNameOf id
  | subject id => subject id
  | run id recorder => run id recorder.recalling
  | runCurrent recorder => runCurrent recorder.recalling

theorem UsesCurrent.target? {q : HostRequest ρ} (h : q.UsesCurrent) (current : Option String) :
    q.target? current = current := by
  cases q with
  | displayName => rfl
  | runCurrent recorder => rfl
  | _ => cases h

theorem runs?_recalling (current : Option String) (q : HostRequest ρ) :
    q.recalling.runs? current = q.runs? current := by
  cases q <;> rfl

end HostRequest

namespace Bridge

/-- The reply to a request, and the bridge and the stage afterwards. -/
def answer (exec : β → Action σ) (b : Bridge β) (s : Stage σ ρ) :
    HostRequest ρ → Reply β × Bridge β × Stage σ ρ
  | .setCurrent id => (.done, b.setCurrent id, s)
  | .current => (.current b.current, b, s)
  | .displayName => (.name b.displayName, b, s)
  | .displayNameOf id => (.name (b.displayNameOf id), b, s)
  | .subject id => (.subject (b.getExample id), b, s)
  | .run id recorder =>
    let (result, s) := b.run exec recorder id s
    (.outcome result, b, s)
  | .runCurrent recorder =>
    let (result, s) := b.runCurrent exec recorder s
    (.outcome result, b, s)

/-- The bridge and the stage after requests were answered in turn. -/
def after (exec : β → Action σ) (b : Bridge β) (s : Stage σ ρ) :
    List (HostRequest ρ) → Bridge β × Stage σ ρ
  | [] => (b, s)
  | q :: asked =>
    let (_, b, s) := b.answer exec s q
    b.after exec s asked

variable (exec : β → Action σ) (b : Bridge β)

/-- A request makes an identifier current or leaves the bridge as it is. -/
theorem answer_bridge (s : Stage σ ρ) (q : HostRequest ρ) :
    (b.answer exec s q).2.1 = { b with current := q.set?.or b.current } := by
  cases q <;> rfl

theorem after_fst (s : Stage σ ρ) (asked : List (HostRequest ρ)) :
    (b.after exec s asked).1 = { b with current := (HostRequest.lastSet asked).or b.current } := by
  induction asked generalizing b s with
  | nil => rfl
  | cons q asked ih =>
    rw [after, ih, answer_bridge, HostRequest.lastSet, HostRequest.lastSet, List.filterMap_cons]
    cases q.set? with
    | none => rfl
    | some id =>
      rw [List.getLast?_cons]
      cases (asked.filterMap HostRequest.set?).getLast? <;> rfl

/-- The invocations of a bridge are what it has examples for. -/
def Matched : Prop := ∀ id, (∃ entry, b.resolve id = .ok entry) ↔ id ∈ b.invocations.map Invocation.id

theorem matched_ofGroup (spec separator : String) (g : Group β) :
    (ofGroup spec separator g).1.Matched := by
  intro id
  rw [map_id_invocations]
  constructor
  · rintro ⟨entry, hentry⟩
    by_contra hid
    have hnone := getExample_of_not_mem spec separator g hid
    rw [getExample, hentry] at hnone
    cases hnone
  · intro hid
    cases hl : (entries g).reverse.lookup id with
    | some entry => exact ⟨entry, by simp only [resolve, ofGroup, ofEntries, hl]⟩
    | none =>
      obtain ⟨entry, hentry, rfl⟩ := List.mem_map.mp hid
      have hne := List.lookup_eq_none_iff.mp hl entry (List.mem_reverse.mpr hentry)
      simp at hne

theorem resolve_eq_error {id : String} {e : SpecError} (h : b.resolve id = .error e) :
    e = .unboundInvocation b.spec id := by
  rw [resolve] at h
  cases hl : b.bindings.lookup id with
  | some entry =>
    rw [hl] at h
    cases h
  | none =>
    rw [hl] at h
    exact (Except.error.inj h).symm

theorem resolve_of_getExample {b : Bridge β} {id : String} {e : Example β}
    (h : b.getExample id = .ok e) : ∃ entry, b.resolve id = .ok entry ∧ entry.subject = e := by
  rw [getExample] at h
  cases hr : b.resolve id with
  | ok entry =>
    rw [hr] at h
    exact ⟨entry, rfl, Except.ok.inj h⟩
  | error e' =>
    rw [hr] at h
    cases h

/-- What is asked of the current invocation may as well be asked of its identifier. -/
theorem answer_about {id : String} (h : b.current = some id) (s : Stage σ ρ) (q : HostRequest ρ) :
    b.answer exec s q = b.answer exec s (q.about id) := by
  have hcurrent : b.currentId = .ok id := by rw [currentId, h]
  cases q with
  | displayName => simp only [answer, HostRequest.about, displayName, hcurrent]
  | runCurrent recorder => simp only [answer, HostRequest.about, runCurrent, hcurrent]
  | _ => rfl

/-- Where nothing is current, what is asked of it fails, and nothing is done. -/
theorem answer_of_noCurrent (h : b.current = none) (s : Stage σ ρ) {q : HostRequest ρ}
    (hq : q.UsesCurrent) :
    (b.answer exec s q).1.error? = some (.noCurrentInvocation b.spec) ∧
      (b.answer exec s q).2.2 = s := by
  have hcurrent : b.currentId = .error (.noCurrentInvocation b.spec) := by rw [currentId, h]
  cases q with
  | displayName => simp only [answer, displayName, hcurrent, Reply.error?, and_self]
  | runCurrent recorder => simp only [answer, runCurrent, hcurrent, Reply.error?, and_self]
  | _ => cases hq

/-- A request to run an identifier runs it, be it given or current. -/
theorem answer_of_runs? {id : String} (s : Stage σ ρ) {q : HostRequest ρ}
    (hq : q.runs? b.current = some id) :
    ∃ recorder, b.answer exec s q =
      (.outcome (b.run exec recorder id s).1, b, (b.run exec recorder id s).2) := by
  cases q with
  | run id' recorder =>
    cases hq
    exact ⟨recorder, rfl⟩
  | runCurrent recorder => exact ⟨recorder, b.answer_about exec hq s (.runCurrent recorder)⟩
  | _ => cases hq

/-- A request about an identifier asks for its name, for its example or for a run, be it given or
current. -/
theorem answer_of_target? {id : String} (s : Stage σ ρ) {q : HostRequest ρ}
    (hq : q.target? b.current = some id) :
    b.answer exec s q = (.name (b.displayNameOf id), b, s) ∨
      b.answer exec s q = (.subject (b.getExample id), b, s) ∨
      ∃ recorder, b.answer exec s q =
        (.outcome (b.run exec recorder id s).1, b, (b.run exec recorder id s).2) := by
  cases q with
  | setCurrent id' => cases hq
  | current => cases hq
  | displayName => exact .inl (b.answer_about exec hq s .displayName)
  | displayNameOf id' =>
    cases hq
    exact .inl rfl
  | subject id' =>
    cases hq
    exact .inr (.inl rfl)
  | run id' recorder => exact .inr (.inr (b.answer_of_runs? exec s hq))
  | runCurrent recorder => exact .inr (.inr (b.answer_of_runs? exec s hq))

variable {exec b}

/-- A request about an identifier that is not bound fails, and does nothing. -/
theorem answer_of_unbound {id : String} {e : SpecError} (hr : b.resolve id = .error e)
    (s : Stage σ ρ) {q : HostRequest ρ} (hq : q.target? b.current = some id) :
    (b.answer exec s q).1.error? = some e ∧ (b.answer exec s q).2.2 = s := by
  have hexample : b.getExample id = .error e := by rw [getExample, hr]
  rcases b.answer_of_target? exec s hq with hname | hsubject | ⟨recorder, hrun⟩
  · rw [hname, displayNameOf, hexample]
    exact ⟨rfl, rfl⟩
  · rw [hsubject, hexample]
    exact ⟨rfl, rfl⟩
  · rw [hrun, run, hr]
    exact ⟨rfl, rfl⟩

/-- A request about an identifier that is bound fails only where a recorder refuses a failure. -/
theorem answer_of_bound {id : String} {entry : Scheduled β} (hr : b.resolve id = .ok entry)
    {s : Stage σ ρ} {q : HostRequest ρ} (hq : q.target? b.current = some id) {e : SpecError}
    (he : (b.answer exec s q).1.error? = some e) : ∃ refusal, e = .report refusal := by
  have hexample : b.getExample id = .ok entry.subject := by rw [getExample, hr]
  rcases b.answer_of_target? exec s hq with hname | hsubject | ⟨recorder, hrun⟩
  · rw [hname, displayNameOf, hexample] at he
    cases he
  · rw [hsubject, hexample] at he
    cases he
  · rw [hrun, b.run_of_resolve exec hr] at he
    rcases Outcome.settle_fst recorder _ _ with hok | ⟨f, refusal, -, hrefused⟩
    · rw [hok] at he
      cases he
    · rw [hrefused] at he
      exact ⟨refusal, (Option.some.inj he).symm⟩

/-- Running a pending example does no more than to say so. -/
theorem answer_of_pending {id : String} {entry : Scheduled β} (hr : b.resolve id = .ok entry)
    (hp : entry.subject.isPending = true) (s : Stage σ ρ) {q : HostRequest ρ}
    (hq : q.runs? b.current = some id) :
    b.answer exec s q = (.outcome (.ok .pending), b, s.emit (.examplePending b.spec id)) := by
  obtain ⟨recorder, hrun⟩ := b.answer_of_runs? exec s hq
  rw [hrun, run, hr]
  simp only [hp, if_true]

/-- A request that is about no identifier does not fail, but for want of a current one. -/
theorem answer_of_no_target {s : Stage σ ρ} {q : HostRequest ρ} (hq : q.target? b.current = none)
    (hu : ¬ q.UsesCurrent) : (b.answer exec s q).1.error? = none := by
  cases q with
  | setCurrent id => rfl
  | current => rfl
  | displayName => exact absurd trivial hu
  | runCurrent recorder => exact absurd trivial hu
  | _ => cases hq

/-- The ways in which a request can fail. -/
theorem cases_of_answer_error {s : Stage σ ρ} {q : HostRequest ρ} {e : SpecError}
    (he : (b.answer exec s q).1.error? = some e) :
    (e = .noCurrentInvocation b.spec ∧ q.UsesCurrent ∧ b.current = none) ∨
      (∃ id, e = .unboundInvocation b.spec id ∧ q.target? b.current = some id ∧
        b.resolve id = .error e) ∨
      ∃ refusal, e = .report refusal := by
  cases ht : q.target? b.current with
  | none =>
    by_cases hu : q.UsesCurrent
    · have hcurrent : b.current = none := (hu.target? b.current).symm.trans ht
      rw [(b.answer_of_noCurrent exec hcurrent s hu).1] at he
      exact .inl ⟨(Option.some.inj he).symm, hu, hcurrent⟩
    · rw [answer_of_no_target ht hu] at he
      cases he
  | some id =>
    cases hr : b.resolve id with
    | error e' =>
      rw [(answer_of_unbound hr s ht).1] at he
      cases he
      exact .inr (.inl ⟨id, b.resolve_eq_error hr, rfl, hr⟩)
    | ok entry => exact .inr (.inr (answer_of_bound hr ht he))

theorem answer_error_noCurrent_iff {s : Stage σ ρ} {q : HostRequest ρ} {spec : String} :
    (b.answer exec s q).1.error? = some (.noCurrentInvocation spec) ↔
      spec = b.spec ∧ q.UsesCurrent ∧ b.current = none := by
  constructor
  · intro he
    rcases cases_of_answer_error he with ⟨hspec, h⟩ | ⟨id, hunbound, -⟩ | ⟨refusal, hrefusal⟩
    · exact ⟨SpecError.noCurrentInvocation.inj hspec, h⟩
    · cases hunbound
    · cases hrefusal
  · rintro ⟨rfl, hu, hcurrent⟩
    exact (b.answer_of_noCurrent exec hcurrent s hu).1

theorem answer_error_unbound_iff (h : b.Matched) {s : Stage σ ρ} {q : HostRequest ρ}
    {spec id : String} :
    (b.answer exec s q).1.error? = some (.unboundInvocation spec id) ↔
      spec = b.spec ∧ q.target? b.current = some id ∧ id ∉ b.invocations.map Invocation.id := by
  constructor
  · intro he
    rcases cases_of_answer_error he with ⟨hspec, -⟩ | ⟨id', hunbound, ht, hr⟩ | ⟨refusal, hrefusal⟩
    · cases hspec
    · cases hunbound
      refine ⟨rfl, ht, fun hid => ?_⟩
      obtain ⟨entry, hentry⟩ := (h id).mpr hid
      rw [hr] at hentry
      cases hentry
    · cases hrefusal
  · rintro ⟨rfl, ht, hid⟩
    cases hr : b.resolve id with
    | error e => rw [(answer_of_unbound hr s ht).1, b.resolve_eq_error hr]
    | ok entry => exact absurd ((h id).mp ⟨entry, hr⟩) hid

/-- A request does nothing when it fails, unless it was a recorder that failed. -/
theorem answer_of_error {s : Stage σ ρ} {q : HostRequest ρ} {e : SpecError}
    (he : (b.answer exec s q).1.error? = some e) (hreport : ∀ refusal, e ≠ .report refusal) :
    (b.answer exec s q).2.2 = s := by
  rcases cases_of_answer_error he with ⟨-, hu, hcurrent⟩ | ⟨id, -, ht, hr⟩ | ⟨refusal, hrefusal⟩
  · exact (b.answer_of_noCurrent exec hcurrent s hu).2
  · exact (answer_of_unbound hr s ht).2
  · exact absurd hrefusal (hreport refusal)

variable (exec b)

/-- Running an invocation is what it is when it is watched. -/
theorem run_unwatched (recorder : Recorder ρ) (id : String) (s : Stage σ ρ) :
    b.run exec recorder id s =
      ((b.run (noting exec) recorder.recalling id s.watched).1,
        (b.run (noting exec) recorder.recalling id s.watched).2.unwatched) := by
  have hstages : StagesPaired (fun t t' => t = t'.forget)
      (⟨s.thread, (s.host, [])⟩ : Stage σ (ρ × List Told))
      (s.watched : Stage (σ × List (Call β)) (ρ × List Told)) := ⟨rfl, rfl⟩
  have hforget := (noting_simulates exec).runBridge b recorder.recalling id hstages
  exact (b.run_mapHost exec recorder.recalling_follows id ⟨s.thread, (s.host, [])⟩).trans
    (Stage.mapHost_eq_unwatched hforget)

/-- A request is answered as it is when it is watched. -/
theorem answer_unwatched (s : Stage σ ρ) (q : HostRequest ρ) :
    b.answer exec s q =
      ((b.answer (noting exec) s.watched q.recalling).1,
        (b.answer (noting exec) s.watched q.recalling).2.1,
        (b.answer (noting exec) s.watched q.recalling).2.2.unwatched) := by
  cases q with
  | run id recorder => simp only [HostRequest.recalling, answer, b.run_unwatched exec recorder id s]
  | runCurrent recorder =>
    cases hcurrent : b.currentId with
    | error e =>
      simp only [HostRequest.recalling, answer, runCurrent, hcurrent]
      rfl
    | ok id =>
      simp only [HostRequest.recalling, answer, runCurrent, hcurrent,
        b.run_unwatched exec recorder id s]
  | _ => rfl

/-- What a host can rely on with a bridge `made` that is now in the state `now`, the identifier `last`
being the one that was made current last. -/
structure Serves (exec : β → Action σ) (made : Bridge β) (last : Option String)
    (now : Bridge β × Stage σ ρ) : Prop where
  bridge_eq : now.1 = { made with current := last }
  current_eq : now.1.answer exec now.2 .current = (.current last, now)
  noCurrent_iff : ∀ (q : HostRequest ρ) (spec : String),
    (now.1.answer exec now.2 q).1.error? = some (.noCurrentInvocation spec) ↔
      spec = made.spec ∧ q.UsesCurrent ∧ last = none
  unbound_iff : ∀ (q : HostRequest ρ) (spec id : String),
    (now.1.answer exec now.2 q).1.error? = some (.unboundInvocation spec id) ↔
      spec = made.spec ∧ q.target? last = some id ∧ id ∉ made.invocations.map Invocation.id
  /-- No request is answered differently for being watched. -/
  watched : ∀ q : HostRequest ρ,
    now.1.answer exec now.2 q =
      ((now.1.answer (noting exec) now.2.watched q.recalling).1,
        (now.1.answer (noting exec) now.2.watched q.recalling).2.1,
        (now.1.answer (noting exec) now.2.watched q.recalling).2.2.unwatched)
  /-- No hook, no body and no recorder is called on either error. -/
  untouched : ∀ (q : HostRequest ρ) (e : SpecError),
    (now.1.answer exec now.2 q).1.error? = some e → (∀ refusal, e ≠ .report refusal) →
      (now.1.answer (noting exec) now.2.watched q.recalling).2.2 = now.2.watched
  about_eq : ∀ (q : HostRequest ρ) (id : String), last = some id →
    now.1.answer exec now.2 q = now.1.answer exec now.2 (q.about id)
  /-- Nothing is called for a pending example. -/
  pending : ∀ (q : HostRequest ρ) (id : String) (e : Example β), q.runs? last = some id →
    made.getExample id = .ok e → e.isPending = true →
      now.1.answer (noting exec) now.2.watched q.recalling =
        (.outcome (.ok .pending), now.1, now.2.watched.emit (.examplePending made.spec id))

theorem Matched.serves {made : Bridge β} (h : made.Matched) (exec : β → Action σ)
    (last : Option String) (s : Stage σ ρ) :
    made.Serves exec last ({ made with current := last }, s) where
  bridge_eq := rfl
  current_eq := rfl
  noCurrent_iff _ _ := answer_error_noCurrent_iff
  unbound_iff _ _ _ := answer_error_unbound_iff (b := { made with current := last }) h
  watched := answer_unwatched exec _ s
  untouched q e he hreport := by
    rw [answer_unwatched] at he
    exact answer_of_error he hreport
  about_eq q _ hlast := answer_about exec _ hlast s q
  pending q id e hq hexample hpending := by
    obtain ⟨entry, hr, rfl⟩ := resolve_of_getExample hexample
    have hq' : q.recalling.runs? last = some id := (q.runs?_recalling last).trans hq
    exact answer_of_pending (b := { made with current := last }) hr hpending s.watched hq'

/-- A bridge over any group is a state machine whose state is the identifier that was made current
last, whatever the host asks and whatever the hooks, the bodies and the recorders do. -/
theorem serves_after (spec separator : String) (g : Group β) (exec : β → Action σ) (s : Stage σ ρ)
    (asked : List (HostRequest ρ)) :
    (ofGroup spec separator g).1.Serves exec (HostRequest.lastSet asked)
      ((ofGroup spec separator g).1.after exec s asked) := by
  have hbridge : ((ofGroup spec separator g).1.after exec s asked).1 =
      { (ofGroup spec separator g).1 with current := HostRequest.lastSet asked } := by
    rw [after_fst]
    exact congrArg _ Option.or_none
  have hserves := (matched_ofGroup spec separator g).serves exec (HostRequest.lastSet asked)
    ((ofGroup spec separator g).1.after exec s asked).2
  rw [← hbridge] at hserves
  exact hserves

end Bridge

end Exemplar
