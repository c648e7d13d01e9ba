import Exemplar.Proofs.Registry.History
import Exemplar.Proofs.Report.Summary
import Exemplar.Proofs.Text.Lines
import Exemplar.Report.Render
import Exemplar.Script.Basic

namespace Exemplar

open Text (lines newlines splitAtChar)

variable {β σ ρ : Type}

/-- What the line of an example begins with. -/
def Status.mark : Status → String
  | passed => "  ✓ "
  | failed => "  ✗ "
  | pending => "  - "

namespace ExampleReport

/-- A report has a failure exactly if its example failed. -/
def Consistent (r : ExampleReport) : Prop := r.failure.isSome = true ↔ r.status = .failed

theorem consistent_ofOutcome (name id : String) (o : Outcome) : (ofOutcome name id o).Consistent := by
  cases o <;> simp [ofOutcome, Consistent]

theorem Consistent.cases {r : ExampleReport} (h : r.Consistent) :
    (∃ f, r.status = .failed ∧ r.failure = some f) ∨
      (r.status = .passed ∨ r.status = .pending) ∧ r.failure = none := by
  rcases hf : r.failure with _ | f
  · have hs : r.status ≠ .failed := by
      intro hs
      have hsome := h.mpr hs
      rw [hf] at hsome
      cases hsome
    rcases hstatus : r.status with _ | _ | _
    · exact .inr ⟨.inl rfl, rfl⟩
    · exact absurd hstatus hs
    · exact .inr ⟨.inr rfl, rfl⟩
  · have hs : r.status = .failed := h.mp (by rw [hf]; rfl)
    exact .inl ⟨f, hs, rfl⟩

/-- The line tells what the report says: it begins with the mark of the status and contains the name,
and of a failure it also contains the place and the message. -/
structure ToldBy (r : ExampleReport) (line : List Char) : Prop where
  mark : r.status.mark.toList <+: line
  name : r.name.toList <:+: line
  failure : ∀ f, r.failure = some f → f.file.toList <:+: line ∧
    (toString f.line.toNat).toList <:+: line ∧ f.message.toList <:+: line

/-- The texts of a report that its line shows as they are. -/
def shown (r : ExampleReport) : List String :=
  r.name :: r.failure.toList.flatMap fun f => [f.file, f.message]

theorem toList_display_of_failed {r : ExampleReport} {f : RecordedFailure} (hs : r.status = .failed)
    (hf : r.failure = some f) :
    r.display.toList = r.status.mark.toList ++ r.name.toList ++ " (".toList ++ f.file.toList ++
      ":".toList ++ (toString f.line.toNat).toList ++ ": ".toList ++ f.message.toList ++ ")".toList := by
  simp only [display, hs, hf, Status.mark, String.toList_append]

theorem toList_display_of_sound {r : ExampleReport} (hs : r.status = .passed ∨ r.status = .pending)
    (hf : r.failure = none) :
    ∃ note : String, r.display.toList = r.status.mark.toList ++ r.name.toList ++ note.toList ∧
      '\n' ∉ note.toList := by
  rcases hs with hs | hs
  · refine ⟨"", ?_, by decide⟩
    simp only [display, hs, hf, Status.mark, String.toList_append, String.toList_empty, List.append_nil]
  · refine ⟨" (pending)", ?_, by decide⟩
    simp only [display, hs, hf, Status.mark, String.toList_append]

theorem count_mark (s : Status) : s.mark.toList.count '\n' = 0 := by
  cases s <;> decide

/-- The newlines of a line are those of the texts that it shows. -/
theorem count_display {r : ExampleReport} (h : r.Consistent) :
    r.display.toList.count '\n' = newlines r.shown := by
  have hmark := count_mark r.status
  rcases h.cases with ⟨f, hs, hf⟩ | ⟨hs, hf⟩
  · have hline : (toString f.line.toNat).toList.count '\n' = 0 :=
      List.count_eq_zero.mpr (Text.not_mem_toString rfl _)
    have hopen : " (".toList.count '\n' = 0 := by decide
    have hcolon : ":".toList.count '\n' = 0 := by decide
    have hspaced : ": ".toList.count '\n' = 0 := by decide
    have hclose : ")".toList.count '\n' = 0 := by decide
    have hshown : newlines r.shown = r.name.toList.count '\n' +
        (f.file.toList.count '\n' + (f.message.toList.count '\n' + 0)) := by
      simp only [shown, hf, Option.toList_some, List.flatMap_cons, List.flatMap_nil, List.append_nil,
        Text.newlines_cons, Text.newlines_nil]
    rw [toList_display_of_failed hs hf, hshown]
    simp only [List.count_append]
    omega
  · obtain ⟨note, hnote, hplain⟩ := toList_display_of_sound hs hf
    have hcount : note.toList.count '\n' = 0 := List.count_eq_zero.mpr hplain
    have hshown : newlines r.shown = r.name.toList.count '\n' + 0 := by
      simp only [shown, hf, Option.toList_none, List.flatMap_nil, Text.newlines_cons,
        Text.newlines_nil]
    rw [hnote, hshown]
    simp only [List.count_append]
    omega

/-- The line of a report tells what the report says, be it one line or broken. -/
theorem toldBy_display {r : ExampleReport} (h : r.Consistent) : r.ToldBy r.display.toList := by
  rcases h.cases with ⟨f, hs, hf⟩ | ⟨hs, hf⟩
  · rw [toList_display_of_failed hs hf]
    refine ⟨?_, ?_, fun f' hf' => ?_⟩
    · simp only [List.append_assoc]
      exact List.prefix_append _ _
    · simp only [List.append_assoc]
      exact List.infix_append' _ _ _
    · obtain rfl : f = f' := Option.some.inj (hf.symm.trans hf')
      let head := r.status.mark.toList ++ r.name.toList ++ " (".toList
      let tail := ": ".toList ++ f.message.toList ++ ")".toList
      refine ⟨⟨head, ":".toList ++ (toString f.line.toNat).toList ++ tail, ?_⟩,
        ⟨head ++ f.file.toList ++ ":".toList, tail, ?_⟩, List.infix_append _ _ _⟩
      · simp only [head, tail, List.append_assoc]
      · simp only [head, tail, List.append_assoc]
  · obtain ⟨note, hnote, -⟩ := toList_display_of_sound hs hf
    rw [hnote]
    refine ⟨?_, ⟨_, _, rfl⟩, fun f hf' => ?_⟩
    · rw [List.append_assoc]
      exact List.prefix_append _ _
    · rw [hf] at hf'
      cases hf'

end ExampleReport

namespace Summary

/-- The texts of a summary that its text shows as they are. -/
def shown (s : Summary) : List String := s.spec :: s.reports.flatMap ExampleReport.shown

/-- The text of the summary consists of a line for the spec, one line for each report in order, an empty
line and a line of totals. -/
def Tabulated (s : Summary) : Prop :=
  ∃ rows, lines s.display.toList = s.spec.toList :: rows ++ [[], s.totals.toList] ∧
    List.Forall₂ ExampleReport.ToldBy s.reports rows

theorem newline_not_mem_totals (s : Summary) : '\n' ∉ s.totals.toList := by
  have hdigits (n : Nat) : '\n' ∉ (toString n).toList := Text.not_mem_toString rfl n
  simp only [totals, String.toList_append, List.mem_append, hdigits, false_or,
    or_false]
  decide

/-- The lines of the text: those of the name of the spec, those of each report, and two more. -/
theorem lines_display (s : Summary) :
    lines s.display.toList = splitAtChar '\n' s.spec.toList ++
      (s.reports.flatMap fun r => splitAtChar '\n' r.display.toList) ++ [[], s.totals.toList] := by
  have hrows : (String.join (s.reports.map fun r => r.display ++ "\n")).toList =
      (s.reports.map fun r => r.display.toList).flatMap (· ++ ['\n']) := by
    rw [String.toList_join, List.flatMap_map, List.flatMap_map]
    simp only [String.toList_append]
    rfl
  have htext : s.display.toList = s.spec.toList ++ '\n' ::
      ((s.reports.map fun r => r.display.toList).flatMap (· ++ ['\n']) ++ '\n' :: s.totals.toList) ++
        ['\n'] := by
    have hnewline : "\n".toList = ['\n'] := rfl
    simp only [display, String.toList_append, hrows, hnewline, List.append_assoc, List.cons_append,
      List.nil_append]
  have hend : splitAtChar '\n' ('\n' :: s.totals.toList) = [[], s.totals.toList] := by
    rw [Text.splitAtChar_cons_self, Text.splitAtChar_of_not_mem s.newline_not_mem_totals]
  rw [htext, Text.lines_append_newline, Text.splitAtChar_append, Text.splitAtChar_flatMap, hend,
    List.flatMap_map, List.append_assoc]

variable {s : Summary} (h : ∀ r ∈ s.reports, r.Consistent)

include h

theorem length_rows :
    (s.reports.flatMap fun r => splitAtChar '\n' r.display.toList).length =
      s.reports.length + newlines (s.reports.flatMap ExampleReport.shown) := by
  generalize s.reports = reports at h
  induction reports with
  | nil => rfl
  | cons r reports ih =>
    obtain ⟨hr, hreports⟩ := List.forall_mem_cons.mp h
    rw [List.flatMap_cons, List.flatMap_cons, List.length_append, ih hreports, Text.newlines_append,
      Text.length_splitAtChar, ExampleReport.count_display hr, List.length_cons]
    omega

/-- Each newline in a text that is shown makes one line more. -/
theorem length_lines_display :
    (lines s.display.toList).length = s.reports.length + 3 + newlines s.shown := by
  rw [lines_display, List.length_append, List.length_append, length_rows h, Text.length_splitAtChar,
    shown, Text.newlines_cons]
  simp only [List.length_cons, List.length_nil]
  omega

theorem rows_of_unbroken (hshown : ∀ text ∈ s.reports.flatMap ExampleReport.shown, '\n' ∉ text.toList) :
    (s.reports.flatMap fun r => splitAtChar '\n' r.display.toList) =
      s.reports.map fun r => r.display.toList := by
  rw [List.map_eq_flatMap]
  apply List.flatMap_congr
  intro r hr
  have hnone : newlines r.shown = 0 :=
    Text.newlines_eq_zero_iff.mpr fun text ht => hshown text (List.mem_flatMap_of_mem hr ht)
  apply Text.splitAtChar_of_not_mem
  rw [← List.count_eq_zero, ExampleReport.count_display (h r hr), hnone]

/-- The text has one line for each report exactly if no text that it shows breaks. -/
theorem tabulated_iff : s.Tabulated ↔ ∀ text ∈ s.shown, '\n' ∉ text.toList := by
  constructor
  · rintro ⟨rows, hlines, hrows⟩
    -- a newline anywhere would make a line too many
    have hlength := length_lines_display h
    rw [hlines] at hlength
    simp only [List.length_append, List.length_cons, List.length_nil, ← hrows.length_eq] at hlength
    apply Text.newlines_eq_zero_iff.mp
    omega
  · intro hshown
    obtain ⟨hspec, hreports⟩ := List.forall_mem_cons.mp hshown
    refine ⟨s.reports.map fun r => r.display.toList, ?_, ?_⟩
    · rw [lines_display, Text.splitAtChar_of_not_mem hspec, rows_of_unbroken h hreports]
      rfl
    · rw [List.forall₂_map_right_iff, List.forall₂_same]
      exact fun r hr => ExampleReport.toldBy_display (h r hr)

end Summary

namespace Bridge

variable {exec : β → Action σ} {recorder : Recorder ρ} {b : Bridge β}

theorem exists_outcome_of_runNext {id : String} {summary summary' : Summary} {s s' : Stage σ ρ}
    (h : b.runNext exec recorder id summary s = (.ok summary', s')) :
    ∃ name o, summary' = summary.push (.ofOutcome name id o) := by
  rw [runNext] at h
  rcases hname : (b.setCurrent id).displayName with e | name
  · rw [hname] at h
    cases h
  · rw [hname] at h
    rcases hrun : (b.setCurrent id).runCurrent exec recorder s with ⟨e | o, s₁⟩
    · rw [hrun] at h
      cases h
    · rw [hrun] at h
      exact ⟨name, o, (Except.ok.inj (congrArg Prod.fst h)).symm⟩

/-- Whatever a bridge is over, the reports of a run that comes to its end are those of outcomes. -/
theorem exists_reports_of_runEach {ids : List String} {summary summary' : Summary} {s s' : Stage σ ρ}
    (h : b.runEach exec recorder ids summary s = (.ok summary', s')) :
    ∃ reports : List ExampleReport, summary' = reports.foldl Summary.push summary ∧
      ∀ r ∈ reports, r.Consistent := by
  induction ids generalizing summary s with
  | nil => exact ⟨[], (Except.ok.inj (congrArg Prod.fst h)).symm, by simp⟩
  | cons id ids ih =>
    rw [runEach] at h
    rcases hnext : b.runNext exec recorder id summary s with ⟨e | summary₁, s₁⟩
    · rw [hnext] at h
      cases h
    · rw [hnext] at h
      obtain ⟨name, o, rfl⟩ := exists_outcome_of_runNext hnext
      obtain ⟨reports, hsummary, hreports⟩ := ih h
      refine ⟨.ofOutcome name id o :: reports, hsummary, List.forall_mem_cons.mpr ⟨?_, hreports⟩⟩
      exact ExampleReport.consistent_ofOutcome name id o

theorem consistent_of_runAll {summary : Summary} {s s' : Stage σ ρ}
    (h : b.runAll exec recorder s = (.ok summary, s')) : ∀ r ∈ summary.reports, r.Consistent := by
  rw [runAll] at h
  rcases heach : b.runEach exec recorder (b.invocations.map Invocation.id) (.start b.spec) s with
    ⟨e | summary₁, s₁⟩
  · rw [heach] at h
    cases h
  · rw [heach] at h
    obtain ⟨reports, hsummary, hreports⟩ := exists_reports_of_runEach heach
    obtain rfl : summary₁ = summary := Except.ok.inj (congrArg Prod.fst h)
    rw [hsummary, Summary.foldl_push]
    exact hreports

end Bridge

namespace Registry

/-- The summary of any run of a spec has one line for each report exactly if no name, file or message
that it shows has a newline in it. Each of these newlines makes one line more. -/
theorem tabulated_runSpecWith_iff (exec : β → Action σ) (recorder : Recorder ρ) (spec : Spec β σ)
    (config : Config) {r r' : Registry β} {s s' : Stage σ ρ} {summary : Summary}
    (h : r.runSpecWith exec recorder spec config s = (.ok summary, r', s')) :
    (summary.Tabulated ↔ ∀ text ∈ summary.shown, '\n' ∉ text.toList) ∧
      (lines summary.display.toList).length =
        summary.reports.length + 3 + newlines summary.shown := by
  have hconsistent : ∀ report ∈ summary.reports, report.Consistent := by
    rw [runSpecWith] at h
    rcases hbridge : r.bridgeFor spec config s.thread with ⟨e | bridge, r₁, t₁⟩
    · rw [hbridge] at h
      cases h
    · rw [hbridge] at h
      rcases hrun : bridge.runAll exec recorder { s with thread := t₁ } with ⟨e | summary₁, s₁⟩
      · simp only [hrun] at h
        cases h
      · simp only [hrun] at h
        obtain rfl : summary₁ = summary := Except.ok.inj (congrArg Prod.fst h)
        exact Bridge.consistent_of_runAll hrun
  exact ⟨Summary.tabulated_iff hconsistent, Summary.length_lines_display hconsistent⟩

/-- The message of a failed assertion tells both numbers on lines of their own. -/
theorem not_tabulated_runSpecWith_assertion :
    let p : Program Unit Unit := .leaf "adds" ⟨"spec", 1⟩ (some ()) .done
    let exec : Unit → Action Unit := fun _ t =>
      (.panicked (.text (assertionMessage 4 5 none)), t.notePanic (some ⟨"spec", 2⟩))
    let specs := Catalogue.ofProgram "s" p
    ∃ summary r' s', Registry.empty.runSpecWith exec collecting (specs.spec 0) .default
        ⟨.fresh (), []⟩ = (.ok summary, r', s') ∧
      summary.reports.length = 1 ∧ ¬ summary.Tabulated ∧
      (lines summary.display.toList).length = 6 := by
  intro p exec specs
  let summary : Summary := ⟨"s", [⟨"s: adds", "adds", .failed,
    some ⟨assertionMessage 4 5 none, "spec", 2, false⟩⟩], 0, 1, 0⟩
  have hrun : ∃ r' s', Registry.empty.runSpecWith exec collecting (specs.spec 0) .default
      ⟨.fresh (), []⟩ = (.ok summary, r', s') := ⟨_, _, rfl⟩
  obtain ⟨r', s', hrun⟩ := hrun
  obtain ⟨hiff, hlength⟩ := tabulated_runSpecWith_iff exec collecting (specs.spec 0) .default hrun
  have hnewlines : newlines summary.shown = 2 := by decide +kernel
  refine ⟨summary, r', s', hrun, rfl, fun htable => ?_, ?_⟩
  · have hnone := Text.newlines_eq_zero_iff.mpr (hiff.mp htable)
    omega
  · rw [hlength, hnewlines]
    rfl

end Registry

end Exemplar
