import Exemplar.Proofs.Registry.Identifiers
import Exemplar.Proofs.Registry.Reports
import Exemplar.Proofs.Report.Refusal

namespace Exemplar

variable {β σ ρ ρ' : Type}

namespace Recorder

theorem taking_accepts (recorder : Recorder ρ) : recorder.taking.Accepts := fun _ _ _ _ _ _ => rfl

theorem Follows.taking {φ : ρ → ρ'} {recorder : Recorder ρ} {recorder' : Recorder ρ'}
    (h : recorder.Follows φ recorder') : recorder.taking.Follows φ recorder'.taking := by
  intro message file line expected host trace
  simp only [Recorder.taking, h message file line expected host trace]

end Recorder

namespace Stage

/-- The stage with nothing noted yet, neither of the calls of hooks and bodies nor of what the recorder
was told. -/
def watched (s : Stage σ ρ) : Stage (σ × List (Call β)) (ρ × List Told) :=
  ⟨s.thread.noted, (s.host, [])⟩

/-- The stage without the notes. -/
def unwatched (s : Stage (σ × List (Call β)) (ρ × List Told)) : Stage σ ρ :=
  ⟨s.thread.forget, s.host.1⟩

/-- Two computations that differ in the notes of calls alone are one when all notes are dropped. -/
theorem mapHost_eq_unwatched {α : Type} {x : α × Stage σ (ρ × List Told)}
    {y : α × Stage (σ × List (Call β)) (ρ × List Told)}
    (h : Paired (StagesPaired fun t t' => t = t'.forget) x y) :
    (x.1, x.2.mapHost Prod.fst) = (y.1, y.2.unwatched) := by
  obtain ⟨result, s, s', rfl, rfl, hthread, hhost⟩ := h.exists_eq
  rw [mapHost, unwatched, hthread, hhost]

/-- A run of a schedule was stopped at the example of number `m`. Its failure is the first that the
recorder refuses of those that it is told when it has no say, and has the number `j` among them. The
recorder was told of the failures up to this one. Hooks and bodies were called for the examples up to
this one, with all hooks after each, and for no other. -/
structure RefusedAt (stage : Stage (σ × List (Call β)) (ρ × List Told))
    (schedule : List (Scheduled β)) (reports : List ExampleReport) (told : List Told)
    (e : ReportError) (j m : Nat) : Prop where
  refused : told[j]?.bind Told.refusal = some e
  taken : ∀ c ∈ told.take j, c.refusal = none
  told_eq : stage.host.2 = told.take (j + 1)
  raised : (reports[m]?.bind ExampleReport.failure).isSome
  before : ((reports.take m).filterMap ExampleReport.failure).length = j
  executed : ∃ called : List (List (Call β)), called.length = m + 1 ∧
    stage.thread.calls = called.flatten ∧ ∀ (i : Nat) (entry : Scheduled β), i ≤ m →
      schedule[i]? = some entry → ∃ calls, called[i]? = some calls ∧ entry.Called calls

end Stage

namespace Bridge

variable (exec : β → Action σ)

/-- A run is the one that is watched. -/
theorem runAll_unwatched {recorder : Recorder ρ} {watching : Recorder (ρ × List Told)}
    (h : watching.Follows Prod.fst recorder) (b : Bridge β)
    (s : Stage (σ × List (Call β)) (ρ × List Told)) :
    b.runAll exec recorder s.unwatched =
      ((b.runAll (noting exec) watching s).1, (b.runAll (noting exec) watching s).2.unwatched) := by
  have hstages : StagesPaired (fun t t' => t = t'.forget)
      (⟨s.thread.forget, s.host⟩ : Stage σ (ρ × List Told)) s := ⟨rfl, rfl⟩
  have hforget := (noting_simulates exec).runAll b watching hstages
  exact (b.runAll_mapHost exec h ⟨s.thread.forget, s.host⟩).trans
    (Stage.mapHost_eq_unwatched hforget)

variable (spec separator : String) {g : Group β}

/-- The invocation of a number is bound to the scheduled example of that number, with a name. -/
theorem resolve_getElem? (hd : ((entries g).map Prod.fst).Nodup) {i : Nat} {entry : Scheduled β}
    (hi : g.schedule[i]? = some entry) :
    ∃ id name, ((entries g).map Prod.fst)[i]? = some id ∧
      (ofGroup spec separator g).1.resolve id =
        .ok { entry with subject := entry.subject.assignName name } := by
  have hi' : i < g.identifiers.length := by
    rw [g.length_identifiers, ← g.length_schedule]
    exact (List.getElem?_eq_some_iff.mp hi).1
  have hentry : (entries g)[i]? = some (binding entry g.identifiers[i]) := by
    rw [entries_eq_zipWith, List.getElem?_zipWith, hi, List.getElem?_eq_getElem hi']
  refine ⟨(binding entry g.identifiers[i]).1, g.identifiers[i], ?_, ?_⟩
  · rw [List.getElem?_map, hentry, Option.map_some]
  · exact resolve_of_nodup spec separator g hd (List.mem_of_getElem? hentry)

/-- The hooks and bodies that a run of the first invocations calls are those of the first examples. -/
theorem called_stageAfter (hd : ((entries g).map Prod.fst).Nodup) (recorder : Recorder ρ) {m : Nat}
    (hm : m < ((entries g).map Prod.fst).length) (s : Stage (σ × List (Call β)) ρ) :
    ∃ called : List (List (Call β)), called.length = m + 1 ∧
      ((ofGroup spec separator g).1.stageAfter (noting exec) recorder
        (((entries g).map Prod.fst).take (m + 1)) s).thread.calls =
          s.thread.calls ++ called.flatten ∧
      ∀ (i : Nat) (entry : Scheduled β), i ≤ m → g.schedule[i]? = some entry →
        ∃ calls, called[i]? = some calls ∧ entry.Called calls := by
  obtain ⟨called, hlength, hflatten, hcalled⟩ := (ofGroup spec separator g).1.calls_stageAfter exec
    (fun id hid => resolve_of_mem spec separator g (List.mem_of_mem_take hid)) recorder s
  refine ⟨called, ?_, hflatten, ?_⟩
  · rw [hlength, List.length_take]
    omega
  · intro i entry hi hentry
    obtain ⟨id, name, hid, hresolve⟩ := resolve_getElem? spec separator hd hentry
    rw [← List.getElem?_take_of_lt (by omega : i < m + 1)] at hid
    exact hcalled i id { entry with subject := entry.subject.assignName name } hid hresolve

theorem StopsAt.refusedAt (hd : ((entries g).map Prod.fst).Nodup) {recorder : Recorder ρ}
    {s : Stage σ ρ} {reports : List ExampleReport} {e : ReportError} {m : Nat}
    {told : List Told} {stage : Stage (σ × List (Call β)) (ρ × List Told)}
    (hlength : reports.length = ((entries g).map Prod.fst).length)
    (h : (ofGroup spec separator g).1.StopsAt (noting exec) recorder ((entries g).map Prod.fst)
      s.watched reports told e m stage) :
    ∃ j, stage.RefusedAt g.schedule reports told e j m := by
  obtain ⟨hstage, taken, f, after, hsplit, hstop, hall, htake, hf⟩ := h
  have hm : m < ((entries g).map Prod.fst).length := by
    rw [← hlength]
    by_contra hge
    rw [List.getElem?_eq_none (by omega)] at hf
    simp at hf
  obtain ⟨called, hcount, hflatten, hcalled⟩ :=
    called_stageAfter exec spec separator hd recorder.recalling hm s.watched
  rw [← hstage] at hflatten
  refine ⟨taken.length, ?_, ?_, ?_, ?_, ?_, called, hcount, hflatten, hcalled⟩
  · rw [hsplit, List.getElem?_append_right (Nat.le_refl _), Nat.sub_self]
    rfl
  · rw [hsplit, List.take_left]
    exact hall
  · rw [hsplit, hstop, List.take_length_add_append]
    rfl
  · rw [hf]
    rfl
  · rw [← htake, List.length_map]

/-- Two runs of a bridge, with notes of what they call. In the one that leads to `full` the recorder has
no say, and this run comes to its end. In the other the recorder has one, and only its first refusal
makes a difference. -/
structure RunsBeside (recorder : Recorder ρ) (b : Bridge β) (schedule : List (Scheduled β))
    (s : Stage σ ρ) (summary : Summary) (full : Stage (σ × List (Call β)) (ρ × List Told))
    (result : Except SpecError Summary) (stage : Stage (σ × List (Call β)) (ρ × List Told)) : Prop where
  full_eq : b.runAll (noting exec) recorder.recalling.taking s.watched = (.ok summary, full)
  run_eq : b.runAll (noting exec) recorder.recalling s.watched = (result, stage)
  told_eq : full.host.2.map Told.failure = summary.reports.filterMap ExampleReport.failure
  same_or_refused : (∀ c ∈ full.host.2, c.refusal = none) ∧ result = .ok summary ∧ stage = full ∨
    ∃ e j m, result = .error (.report e) ∧
      stage.RefusedAt schedule summary.reports full.host.2 e j m

/-- A bridge with pairwise distinct identifiers runs to its end if the recorder has no say. If it has
one, the run is the same or stops at the first failure that is refused. -/
theorem runAll_recalling (recorder : Recorder ρ) (hd : ((entries g).map Prod.fst).Nodup)
    (s : Stage σ ρ) :
    ∃ summary full result stage, (ofGroup spec separator g).1.RunsBeside exec recorder g.schedule s
      summary full result stage := by
  let b := (ofGroup spec separator g).1
  have hbound : ∀ id ∈ (entries g).map Prod.fst, ∃ entry, b.resolve id = .ok entry :=
    fun _ hid => resolve_of_mem spec separator g hid
  obtain ⟨reports, told, hlength, hfull, htold, hfailures, hstrict⟩ :=
    b.runEach_recalling (noting exec) hbound recorder (.start spec) s.watched
  have hids : b.invocations.map Invocation.id = (entries g).map Prod.fst :=
    map_id_invocations spec separator g
  have hfull' := runAll_of_ok (noting exec) hids hfull
  have hreports : (reports.foldl Summary.push (.start spec)).reports = reports := by
    rw [Summary.foldl_push]
    rfl
  rw [← hreports] at hfailures
  obtain rfl : _ = told := htold
  rcases hstrict with ⟨hall, hrun⟩ | ⟨e, m, stage, hrun, hstop⟩
  · have hrun' := runAll_of_ok (noting exec) hids hrun
    exact ⟨_, _, _, _, hfull', hrun', hfailures, .inl ⟨hall, rfl, rfl⟩⟩
  · have hrun' := runAll_of_error (noting exec) hids hrun
    obtain ⟨j, hrefused⟩ := hstop.refusedAt exec spec separator hd hlength
    rw [← hreports] at hrefused
    exact ⟨_, _, _, _, hfull', hrun', hfailures, .inr ⟨e, j, m, rfl, hrefused⟩⟩

/-- A bridge with pairwise distinct identifiers accounts for all examples if the recorder takes every
failure. -/
theorem accounts_runAll {recorder : Recorder ρ} (ha : recorder.Accepts)
    (hd : ((entries g).map Prod.fst).Nodup) (s : Stage σ ρ) :
    ∃ summary s', (ofGroup spec separator g).1.runAll exec recorder s = (.ok summary, s') ∧
      summary.Accounts exec spec separator ((entries g).map Prod.fst) g.schedule (fun i =>
        ((ofGroup spec separator g).1.stageAfter exec recorder
          (((entries g).map Prod.fst).take i) s).thread) := by
  obtain ⟨summary, s', hrun, haccounts, -⟩ :=
    runAll_noting exec ha spec separator hd ⟨s.thread, (s.host, [])⟩
  have hplain := (ofGroup spec separator g).1.runAll_mapHost exec recorder.noting_follows
    ⟨s.thread, (s.host, [])⟩
  rw [hrun] at hplain
  refine ⟨summary, _, hplain, ?_⟩
  have hturn (i : Nat) := congrArg Stage.thread ((ofGroup spec separator g).1.stageAfter_mapHost exec
    recorder.noting_follows (((entries g).map Prod.fst).take i) ⟨s.thread, (s.host, [])⟩)
  exact (funext hturn).symm ▸ haccounts

end Bridge

namespace Registry

/-- A bridge over a whole spec, where all bridges before it were, has the identifiers that the tree
determines, and leaves the tree with them. -/
theorem Tracked.bridgeFor {spec : Spec β σ} {paths : List (List Nat)} {r : Registry β} {name : String}
    {tree : Group β} {t : Thread σ} (h : Tracked spec paths r) (hp : ∀ path ∈ paths, path = [])
    (hn : spec.name = .ok name) (ht : (r.firstUse spec t).1 = .ok tree) (config : Config) :
    (Bridge.entries tree).map Prod.fst = tree.identifiers ∧ ∃ r' t',
      r.bridgeFor spec config t = (.ok (Bridge.ofGroup name config.nameSeparator tree).1, r', t') ∧
      Tracked spec (paths ++ [[]]) r' ∧ r'.outcome? spec.key = some (.ok tree.named) := by
  rcases hfirst : r.firstUse spec t with ⟨result, r', t'⟩
  obtain rfl : result = .ok tree := by rw [← ht, hfirst]
  have hused := used_of_firstUse hfirst
  have htracked := h.used hused
  have hroot : tree.at? [] = some tree := rfl
  refine ⟨(htracked.named tree hused.stored).map_fst_entries hp, r'.nameAt spec.key tree [],
    t'.emitAll (Bridge.ofGroup name config.nameSeparator tree).1.creationEvents, ?_,
    htracked.nameAt hused.stored [], outcome?_nameAt hused.stored hroot⟩
  rw [Registry.bridgeFor, hfirst, hn]
  rfl

/-- The first use of a spec that was compiled gives the tree that is there. -/
theorem firstUse_of_outcome? {spec : Spec β σ} {r : Registry β} {tree : Group β}
    (h : r.outcome? spec.key = some (.ok tree)) (t : Thread σ) :
    (r.firstUse spec t).1 = .ok tree := by
  obtain ⟨slot, hs⟩ := slot?_isSome_of_outcome? h
  have hc : slot.compiled = some (.ok tree) := by simpa [outcome?, hs] using h
  simp only [firstUse, rootFor, hs, Slot.compile, hc]
  rfl

/-- Running a spec is running its bridge. -/
theorem runSpecWith_unwatched (exec : β → Action σ) {recorder : Recorder ρ}
    {watching : Recorder (ρ × List Told)} (h : watching.Follows Prod.fst recorder) {spec : Spec β σ}
    {config : Config} {r r' : Registry β} {s : Stage σ ρ} {t' : Thread σ} {bridge : Bridge β}
    {result : Except SpecError Summary} {stage : Stage (σ × List (Call β)) (ρ × List Told)}
    (hbridge : r.bridgeFor spec config s.thread = (.ok bridge, r', t'))
    (hrun : bridge.runAll (noting exec) watching (Stage.watched ⟨t', s.host⟩) = (result, stage)) :
    r.runSpecWith exec recorder spec config s = (result.mapError .failed, r', stage.unwatched) := by
  have hplain := bridge.runAll_unwatched exec h (Stage.watched ⟨t', s.host⟩)
  have hstage : (Stage.watched ⟨t', s.host⟩ : Stage (σ × List (Call β)) _).unwatched =
      ⟨t', s.host⟩ := rfl
  rw [hrun, hstage] at hplain
  simp only [runSpecWith, hbridge, hplain]

variable (specs : Catalogue β σ) (exec : β → Action σ)

/-- Bridges over a whole spec have the identifiers that the tree determines, after a history with
bridges over the whole spec only. -/
theorem bridgeFor_serve {paths : List (List Nat)} {key : Nat} {r : Registry β} {name : String}
    {tree : Group β} {more : List (Use σ ρ')} (h : Tracked (specs.spec key) paths r)
    (hp : ∀ path ∈ paths, path = []) (hn : (specs.spec key).name = .ok name)
    (ho : r.outcome? (specs.spec key).key = some (.ok tree)) (hw : ∀ u ∈ more, u.IsWhole key)
    (config : Config) (t t' : Thread σ) :
    ∃ later, ((serve specs exec more r t).2.1.bridgeFor (specs.spec key) config t').1 = .ok later ∧
      later.invocations = tree.identifiers.mapIdx fun i id => ⟨id, name, i⟩ := by
  have hpersists := persists_serve specs exec more key r t
  have htracked := tracked_serve specs exec more t h
  rw [← specs.key_spec key, ho, specs.key_spec] at hpersists
  obtain ⟨tree', ho', hunnamed⟩ := hpersists.exists_tree
  rw [← specs.key_spec key] at ho'
  have hpaths : ∀ path ∈ paths ++ Use.pathsOf key more, path = [] :=
    List.forall_mem_append.mpr ⟨hp, Use.pathsOf_whole hw⟩
  obtain ⟨hids, r', t'', hbridge, -⟩ :=
    htracked.bridgeFor hpaths hn (firstUse_of_outcome? ho' t') config
  refine ⟨_, congrArg Prod.fst hbridge, ?_⟩
  rw [Bridge.invocations_eq, hids, Group.identifiers_congr hunnamed]

/-- In a world whose bridges are over whole specs only, a run of a spec with a tree comes to its end if
the recorder has no say. If it has one, its first refusal is the only thing that stops the run, and the
error of the run. However the run ends, later bridges over the spec have the same invocations. -/
theorem refused_runSpecWith {uses : List (Use σ ρ')} {key : Nat} {name : String} {tree : Group β}
    (t : Thread σ) (hn : (specs.spec key).name = .ok name) (hw : ∀ u ∈ uses, u.IsWhole key)
    (recorder : Recorder ρ) (config : Config) (s : Stage σ ρ)
    (ht : ((serve specs exec uses .empty t).2.1.firstUse (specs.spec key) s.thread).1 = .ok tree) :
    let r := (serve specs exec uses .empty t).2.1
    let ids := Identifier.ofChains (tree.flatten.map Example.chain)
    ∃ bridge r' t' summary full result stage,
      r.bridgeFor (specs.spec key) config s.thread = (.ok bridge, r', t') ∧
      bridge.RunsBeside exec recorder tree.schedule ⟨t', s.host⟩ summary full result stage ∧
      r.runSpecWith exec recorder.taking (specs.spec key) config s = (.ok summary, r', full.unwatched) ∧
      summary.Accounts exec name config.nameSeparator ids tree.schedule
        (fun i => (bridge.stageAfter exec recorder.taking (ids.take i) ⟨t', s.host⟩).thread) ∧
      r.runSpecWith exec recorder (specs.spec key) config s =
        (result.mapError .failed, r', stage.unwatched) ∧
      ∀ (more : List (Use σ ρ')) (config' : Config) (t₁ t₂ : Thread σ),
        (∀ u ∈ more, u.IsWhole key) → ∃ later,
          ((serve specs exec more r' t₁).2.1.bridgeFor (specs.spec key) config' t₂).1 = .ok later ∧
          later.invocations = bridge.invocations := by
  intro r ids
  have htracked := tracked_serve specs exec uses t (.empty (specs.spec key))
  obtain ⟨hids, r', t', hbridge, htracked', hstored⟩ :=
    htracked.bridgeFor (Use.pathsOf_whole hw) hn ht config
  have hnodup : ((Bridge.entries tree).map Prod.fst).Nodup := by
    rw [hids]
    exact Identifier.ofChains_nodup _
  let bridge := (Bridge.ofGroup name config.nameSeparator tree).1
  obtain ⟨summary, full, result, stage, hbeside⟩ :=
    Bridge.runAll_recalling exec name config.nameSeparator recorder hnodup ⟨t', s.host⟩
  obtain ⟨summary', s', hsummary, haccounts⟩ := Bridge.accounts_runAll exec name config.nameSeparator
    recorder.taking_accepts hnodup ⟨t', s.host⟩
  have hplain := bridge.runAll_unwatched exec recorder.recalling_follows.taking
    (Stage.watched ⟨t', s.host⟩)
  rw [hbeside.full_eq] at hplain
  obtain rfl : summary' = summary := Except.ok.inj (congrArg Prod.fst (hsummary.symm.trans hplain))
  refine ⟨bridge, r', t', summary', full, result, stage, hbridge, hbeside, ?_, ?_, ?_, ?_⟩
  · exact runSpecWith_unwatched exec recorder.recalling_follows.taking hbridge hbeside.full_eq
  · simp only [hids] at haccounts
    exact haccounts
  · exact runSpecWith_unwatched exec recorder.recalling_follows hbridge hbeside.run_eq
  · intro more config' t₁ t₂ hmore
    have hpaths : ∀ path ∈ [] ++ Use.pathsOf key uses ++ [[]], path = [] :=
      List.forall_mem_append.mpr ⟨Use.pathsOf_whole hw, by simp⟩
    obtain ⟨later, hlater, hinvocations⟩ :=
      bridgeFor_serve specs exec htracked' hpaths hn hstored hmore config' t₁ t₂
    refine ⟨later, hlater, ?_⟩
    rw [hinvocations, Bridge.invocations_eq, hids, tree.identifiers_named]

set_option maxRecDepth 4000 in
/-- Two of three examples fail, and the recorder takes one failure only. -/
theorem refused_runSpecWith_second_failure :
    let p : Program Nat Unit := .after 0 (.leaf "a" ⟨"spec", 1⟩ (some 1) (.leaf "b" ⟨"spec", 2⟩ (some 2)
      (.leaf "c" ⟨"spec", 3⟩ (some 3) .done)))
    let exec : Nat → Action Unit := fun code t =>
      (if code = 1 ∨ code = 2 then .panicked (.text "boom") else .returned (.ok ()), t)
    let specs := Catalogue.ofProgram "s" p
    let uses : List (Use Unit Unit) := [.bridge 0 .default]
    let r := (serve specs exec uses .empty (.fresh ())).2.1
    ∃ r', ∃ stage : Stage (Unit × List (Call Nat)) (List RecordedFailure × List Told),
      r.runSpecWith exec (acceptingAtMost 1 "full") (specs.spec 0) .default ⟨.fresh (), []⟩ =
        (.error (.failed (.report ⟨"full"⟩)), r', stage.unwatched) ∧
      stage.thread.calls.map Call.code = [1, 0, 2, 0] ∧
      stage.host.2.map Told.failure =
        [⟨"boom", "spec", 1, false⟩, ⟨"boom", "spec", 2, false⟩] ∧
      ∃ schedule reports told j m, stage.RefusedAt schedule reports told ⟨"full"⟩ j m := by
  intro p exec specs uses r
  let tree : Group Nat :=
    ⟨"", .leaf ⟨"a", [], ⟨"spec", 1⟩, some 1, some "a"⟩
      (.leaf ⟨"b", [], ⟨"spec", 2⟩, some 2, some "b"⟩
        (.leaf ⟨"c", [], ⟨"spec", 3⟩, some 3, some "c"⟩ .nil)), [], [0]⟩
  have hw : ∀ u ∈ uses, u.IsWhole 0 := by
    simp [uses, Use.IsWhole, Use.pathOf]
  have ht : (r.firstUse (specs.spec 0) (.fresh ())).1 = .ok tree := rfl
  obtain ⟨bridge, r', t', summary, full, result, stage, hbridge, ⟨-, hstage, -, hend⟩, -, -, hrun, -⟩ :=
    refused_runSpecWith specs exec (.fresh ()) rfl hw (acceptingAtMost 1 "full") .default
      ⟨.fresh (), []⟩ ht
  obtain rfl := Except.ok.inj (congrArg Prod.fst hbridge)
  obtain rfl := congrArg (fun x => x.2.2) hbridge
  have hresult : result = .error (.report ⟨"full"⟩) := (congrArg Prod.fst hstage).symm
  have hcalls : stage.thread.calls.map Call.code = [1, 0, 2, 0] :=
    congrArg (fun x => x.2.thread.calls.map Call.code) hstage.symm
  have htold : stage.host.2.map Told.failure =
      [⟨"boom", "spec", 1, false⟩, ⟨"boom", "spec", 2, false⟩] :=
    congrArg (fun x => x.2.host.2.map Told.failure) hstage.symm
  rcases hend with ⟨-, hok, -⟩ | ⟨e, j, m, herror, hrefused⟩
  · rw [hresult] at hok
    cases hok
  · rw [hresult] at herror hrun
    obtain rfl : ⟨"full"⟩ = e := SpecError.report.inj (Except.error.inj herror)
    exact ⟨_, stage, hrun, hcalls, htold, _, _, _, j, m, hrefused⟩

end Registry

end Exemplar
