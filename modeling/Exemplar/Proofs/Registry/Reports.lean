import Exemplar.Proofs.Registry.History
import Exemplar.Proofs.Report.Summary

namespace Exemplar

variable {β σ ρ ρ' : Type}

namespace Registry

variable (specs : Catalogue β σ) (exec : β → Action σ)

theorem runSpecWith_mapHost {φ : ρ → ρ'} {recorder : Recorder ρ} {recorder' : Recorder ρ'}
    (h : recorder.Follows φ recorder') (spec : Spec β σ) (config : Config) (r : Registry β)
    (s : Stage σ ρ) :
    r.runSpecWith exec recorder' spec config (s.mapHost φ) =
      ((r.runSpecWith exec recorder spec config s).1, (r.runSpecWith exec recorder spec config s).2.1,
        (r.runSpecWith exec recorder spec config s).2.2.mapHost φ) := by
  have hthread : (s.mapHost φ).thread = s.thread := rfl
  rw [runSpecWith, runSpecWith, hthread]
  rcases r.bridgeFor spec config s.thread with ⟨e | bridge, r', t⟩
  · rfl
  · have hall := bridge.runAll_mapHost exec h { s with thread := t }
    have hstage : ({ s with thread := t } : Stage σ ρ).mapHost φ =
        { s.mapHost φ with thread := t } := rfl
    rw [hstage] at hall
    simp only [hall]

/-- In a world whose bridges are over whole specs only, a run of a spec with a tree and a recorder that
takes every failure comes to its end. It reports on each example of the tree in order, as the example
ended on the thread that those before it had left, and it tells the recorder of the failures of its
reports, in order, and of nothing else. -/
theorem accounts_runSpecWith {uses : List (Use σ ρ')} {key : Nat} {name : String} {tree : Group β}
    (t : Thread σ) (hn : (specs.spec key).name = .ok name) (hw : ∀ u ∈ uses, u.IsWhole key)
    {recorder : Recorder ρ} (ha : recorder.Accepts) (config : Config) (s : Stage σ ρ)
    (ht : ((serve specs exec uses .empty t).2.1.firstUse (specs.spec key) s.thread).1 = .ok tree) :
    let r := (serve specs exec uses .empty t).2.1
    let ids := Identifier.ofChains (tree.flatten.map fun e => e.ancestry ++ [e.description])
    tree.schedule.map (fun entry => entry.subject) = tree.flatten ∧ ∃ bridge summary r' t' s',
      r.bridgeFor (specs.spec key) config s.thread = (.ok bridge, r', t') ∧
      r.runSpecWith exec recorder (specs.spec key) config s = (.ok summary, r', s') ∧
      summary.Accounts exec name config.nameSeparator ids tree.schedule
        (fun i => (bridge.stageAfter exec recorder (ids.take i) ⟨t', s.host⟩).thread) ∧
      r.runSpecWith exec recorder.noting (specs.spec key) config ⟨s.thread, (s.host, [])⟩ =
        (.ok summary, r', ⟨s'.thread, (s'.host, summary.reports.filterMap ExampleReport.failure)⟩) := by
  intro r ids
  rcases hfirst : r.firstUse (specs.spec key) s.thread with ⟨result, r', t'⟩
  have hresult : result = .ok tree := by rw [← ht, hfirst]
  rw [hresult] at hfirst
  have hused := used_of_firstUse hfirst
  have htracked := (tracked_serve specs exec uses t (.empty (specs.spec key))).used hused
  have hnamed := htracked.named tree hused.stored
  -- all earlier bridges were over the whole tree, and so the identifiers are pairwise distinct
  have hids : (Bridge.entries tree).map Prod.fst = ids :=
    hnamed.map_fst_entries (Use.pathsOf_whole hw)
  have hnodup : ((Bridge.entries tree).map Prod.fst).Nodup := by
    rw [hids]
    exact Identifier.ofChains_nodup _
  have hbridge : ∃ r'' t'', r.bridgeFor (specs.spec key) config s.thread =
      (.ok (Bridge.ofGroup name config.nameSeparator tree).1, r'', t'') := by
    rw [bridgeFor, hfirst, hn]
    exact ⟨_, _, rfl⟩
  obtain ⟨r'', t'', hbridge⟩ := hbridge
  obtain ⟨summary, s', hrun, haccounts, hcalls⟩ :=
    Bridge.runAll_noting exec ha name config.nameSeparator hnodup ⟨t'', (s.host, [])⟩
  have hnoting : r.runSpecWith exec recorder.noting (specs.spec key) config ⟨s.thread, (s.host, [])⟩ =
      (.ok summary, r'', s') := by
    simp only [runSpecWith, hbridge, hrun]
    rfl
  have hplain := runSpecWith_mapHost exec recorder.noting_follows (specs.spec key) config r
    ⟨s.thread, (s.host, [])⟩
  rw [hnoting] at hplain
  have hturn (i : Nat) : ((Bridge.ofGroup name config.nameSeparator tree).1.stageAfter exec
      recorder.noting (ids.take i) ⟨t'', (s.host, [])⟩).thread =
      ((Bridge.ofGroup name config.nameSeparator tree).1.stageAfter exec recorder (ids.take i)
        ⟨t'', s.host⟩).thread :=
    congrArg Stage.thread ((Bridge.ofGroup name config.nameSeparator tree).1.stageAfter_mapHost exec
      recorder.noting_follows (ids.take i) ⟨t'', (s.host, [])⟩).symm
  refine ⟨tree.map_subject_schedule, _, summary, r'', t'', s'.mapHost Prod.fst, hbridge, hplain, ?_, ?_⟩
  · simp only [hids, hturn] at haccounts
    exact haccounts
  · rw [List.nil_append] at hcalls
    rw [hnoting, ← hcalls]
    rfl

set_option maxRecDepth 2000 in
/-- The same body succeeds when it is called first and panics when it is called again. -/
theorem accounts_runSpecWith_second_call :
    let p : Program Unit Unit := .leaf "a" ⟨"spec", 1⟩ (some ()) (.leaf "b" ⟨"spec", 2⟩ none
      (.leaf "a" ⟨"spec", 3⟩ (some ()) .done))
    let exec : Unit → Action Nat := fun _ t =>
      (if t.user = 0 then .returned (.ok ()) else .panicked (.text "boom"),
        { t with user := t.user + 1 })
    let specs := Catalogue.ofProgram "s" p
    let uses : List (Use Nat Unit) := [.bridge 0 .default]
    let r := (serve specs exec uses .empty (.fresh 0)).2.1
    ∃ summary r' s', r.runSpecWith exec collecting.noting (specs.spec 0) .default
        ⟨.fresh 0, ([], [])⟩ = (.ok summary, r', s') ∧
      summary.reports.map ExampleReport.status = [.passed, .pending, .failed] ∧
      summary.passed + summary.failed + summary.pending = 3 ∧
      s'.host.2 = [⟨"boom", "spec", 3, false⟩] := by
  intro p exec specs uses r
  let tree : Group Unit :=
    ⟨"", .leaf ⟨"a", [], ⟨"spec", 1⟩, some (), some "a"⟩
      (.leaf ⟨"b", [], ⟨"spec", 2⟩, none, some "b"⟩
        (.leaf ⟨"a", [], ⟨"spec", 3⟩, some (), some "a_2"⟩ .nil)), [], []⟩
  have hw : ∀ u ∈ uses, u.IsWhole 0 := by
    simp [uses, Use.IsWhole, Use.pathOf]
  have ha : Recorder.Accepts collecting := fun _ _ _ _ _ _ => rfl
  have ht : (r.firstUse (specs.spec 0) (.fresh 0)).1 = .ok tree := rfl
  obtain ⟨-, _, summary, r', t', s', -, -, haccounts, hnoting⟩ :=
    accounts_runSpecWith specs exec (.fresh 0) rfl hw ha .default ⟨.fresh 0, []⟩ ht
  have hsummary : summary = ⟨"s", [⟨"s: a", "a", .passed, none⟩, ⟨"s: b", "b", .pending, none⟩,
      ⟨"s: a", "a_2", .failed, some ⟨"boom", "spec", 3, false⟩⟩], 1, 1, 1⟩ :=
    Except.ok.inj (congrArg Prod.fst hnoting).symm
  refine ⟨summary, r', _, hnoting, ?_, ?_, ?_⟩
  · rw [hsummary]
    rfl
  · rw [haccounts.total_eq, haccounts.length_eq]
    rfl
  · rw [hsummary]
    rfl

end Registry

end Exemplar
