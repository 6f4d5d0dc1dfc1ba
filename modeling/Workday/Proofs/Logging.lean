import Workday.Logging
import Workday.Proofs.Worklog

/-!
This module contains the stages of logging a day. All that happens until the timesheet is shown is
the same whether the work is to be written or not, so a run is this preview and what follows it.
-/

namespace Workday.Logging

open Run

structure Shown where
  settings : JiraSettings
  sheet : Timesheet
  names : Names

def preview (stored : Except Unusable Settings) (tracker : Tracker) (date : Date) (sloppy : Bool)
    (tokens : List String) : Run Failure Shown := do
  if tokens.isEmpty then
    throw .noTasks
  let settings := (← Run.liftExcept (stored.mapError .settings)).effective
  let sheet ← prepare settings.project sloppy tokens
  let names ← Run.mapError .unnamed (Worklog.lookupNames settings tracker [] sheet.tasks)
  present names date sheet.tasks
  return ⟨settings, sheet, names⟩

def finish (tracker : Tracker) (date : Date) (isWritten : Bool) (shown : Shown) : Run Failure Unit :=
  if isWritten then
    write shown.settings tracker date shown.sheet.tasks
  else
    Run.sayFramed .logging .info Message.dryRun.text

variable (stored : Except Unusable Settings) (tracker : Tracker) (today date : Date)

theorem run_eq_preview_bind_finish (request : LogRequest) :
    run stored tracker today request =
      preview stored tracker (request.date.getD today) request.sloppy request.tokens >>=
        finish tracker (request.date.getD today) request.write := by
  unfold run preview finish
  dsimp only
  split
  . simp only [bind_assoc, pure_bind]
  . simp only [bind_assoc, pure_bind]

section Preparing

variable (project : String) (sloppy : Bool) (tokens : List String)

theorem onlyTells_remarkTokens : (remarkTokens project tokens).OnlyTells (.ok ()) := by
  induction tokens with
  | nil => apply onlyTells_pure
  | cons token tokens ih =>
    unfold remarkTokens
    dsimp only
    split
    . exact (onlyTells_emit _).bind ih
    . exact ih

theorem onlyTells_remarkSplit : (remarkSplit project tokens).OnlyTells (.ok ()) := by
  unfold remarkSplit
  split
  . apply onlyTells_emit
  . apply onlyTells_pure

theorem onlyTells_prepare :
    (prepare project sloppy tokens).OnlyTells
      ((Timesheet.prepare project sloppy tokens).mapError .refused) := by
  unfold prepare
  apply (onlyTells_remarkTokens project tokens).bind
  apply (onlyTells_remarkSplit project tokens).bind
  cases Timesheet.prepare project sloppy tokens with
  | error refusal =>
    apply OnlyTells.bind_of_error
    apply onlyTells_liftExcept
  | ok sheet =>
    apply (onlyTells_liftExcept _).bind
    dsimp only
    split
    . exact (onlyTells_emit _).bind (onlyTells_pure sheet)
    . apply onlyTells_pure

end Preparing

section Previewing

variable {stored} {settings : Settings} {sheet : Timesheet} {sloppy : Bool} {tokens : List String}

/--
What is told when a timesheet is shown, the latest first.
-/
def presented (names : Names) (date : Date) (tasks : List Task) : List Event :=
  [.notice ⟨.logging, .plain, false, Spreadsheet.row names tasks⟩,
    .notice ⟨.logging, .plain, true, Message.spreadsheetRowHeader.text⟩,
    .table (Overview.table names tasks),
    .notice ⟨.logging, .plain, true, (Message.timesheetHeader date.long).text⟩]

theorem after_present (names : Names) (tasks : List Task) (trace : Trace) :
    (present names date tasks).after trace =
      (.ok (), { trace with events := presented names date tasks ++ trace.events }) := rfl

theorem does_preview_of_error {cause : Unusable} (h : stored = .error cause) (trace : Trace) :
    Does tracker (preview stored tracker date sloppy tokens) trace [] false := by
  rw [h]
  unfold preview
  dsimp only
  split
  . rw [does_nil_iff]
    exact ⟨rfl, rfl⟩
  . apply Does.bind_of_stops
    exact does_of_onlyTells (onlyTells_liftExcept _) trace

theorem does_preview_of_refusal {refusal : Refusal} (hstored : stored = .ok settings)
    (h : Timesheet.prepare settings.effective.project sloppy tokens = .error refusal)
    (trace : Trace) : Does tracker (preview stored tracker date sloppy tokens) trace [] false := by
  rw [hstored]
  unfold preview
  dsimp only
  split
  . rw [does_nil_iff]
    exact ⟨rfl, rfl⟩
  . apply does_bind_of_onlyTells (onlyTells_liftExcept _)
    intro later
    apply Does.bind_of_stops
    have hprepare := onlyTells_prepare settings.effective.project sloppy tokens
    rw [h] at hprepare
    exact does_of_onlyTells hprepare later

def views (settings : JiraSettings) (tasks : List Task) : List Errand :=
  (tasks.map Task.id).eraseDups.map (Errand.view settings)

theorem logsWork_of_mem_views {settings : JiraSettings} {tasks : List Task} {errand : Errand}
    (h : errand ∈ views settings tasks) : errand.command.logsWork = false := by
  unfold views at h
  rw [List.mem_map] at h
  obtain ⟨id, _, rfl⟩ := h
  apply Errand.logsWork_view

theorem does_preview_of_ok (hne : tokens ≠ []) (hstored : stored = .ok settings)
    (h : Timesheet.prepare settings.effective.project sloppy tokens = .ok sheet) (trace : Trace) :
    Does tracker (preview stored tracker date sloppy tokens) trace
      (views settings.effective sheet.tasks) true := by
  rw [hstored]
  unfold preview
  dsimp only
  split
  . next hempty =>
    rw [List.isEmpty_iff] at hempty
    contradiction
  . apply does_bind_of_onlyTells (onlyTells_liftExcept _)
    intro later
    have hprepare := onlyTells_prepare settings.effective.project sloppy tokens
    rw [h] at hprepare
    apply does_bind_of_onlyTells hprepare
    intro later
    rw [← List.append_nil (views _ _)]
    apply Does.bind
    . have hlookup := Worklog.does_lookupNames settings.effective tracker [] sheet.tasks later
      rw [List.map_nil, Worklog.unknownIds_of_nothing_known] at hlookup
      exact hlookup.mapError _
    . intro names last _
      apply does_bind_of_ok (after_present ..) rfl
      rw [does_nil_iff]
      exact ⟨rfl, rfl⟩

theorem ok_of_preview {trace later : Trace} {shown : Shown}
    (h : (preview stored tracker date sloppy tokens).after trace = (.ok shown, later)) :
    tokens ≠ [] ∧ (∃ settings, stored = .ok settings ∧ shown.settings = settings.effective) ∧
    Timesheet.prepare shown.settings.project sloppy tokens = .ok shown.sheet ∧
    ∃ earlier looked,
      (Worklog.lookupNames shown.settings tracker [] shown.sheet.tasks).after earlier =
        (.ok shown.names, looked) ∧
      later.events = presented shown.names date shown.sheet.tasks ++ looked.events := by
  unfold preview at h
  dsimp only at h
  split at h
  . -- Without tokens the run does not even look at its settings.
    obtain ⟨_, _, hthrow, _⟩ := ok_of_after_bind h
    cases hthrow
  . next hempty =>
    obtain ⟨settings, _, hstored, h⟩ := ok_of_after_bind h
    obtain ⟨sheet, prepared, hsheet, h⟩ := ok_of_after_bind h
    obtain ⟨names, looked, hnames, h⟩ := ok_of_after_bind h
    rw [after_bind_of_ok (after_present ..), after_pure] at h
    rw [after_mapError, Prod.mk.injEq, mapError_eq_ok_iff] at hnames
    cases h
    refine ⟨?_, ⟨settings, ?_, rfl⟩, ?_, prepared, looked, Prod.ext hnames.1 hnames.2, rfl⟩
    . rw [Ne, ← List.isEmpty_iff]
      exact hempty
    . rw [← mapError_eq_ok_iff]
      exact (onlyTells_liftExcept _).eq_of_after hstored
    . rw [← mapError_eq_ok_iff]
      exact (onlyTells_prepare _ sloppy tokens).eq_of_after hsheet

end Previewing

section Finishing

variable {settings : JiraSettings} {tasks : List Task}

theorem does_write_of_ok {time : TimeOfDay} (h : settings.startTime = .ok time) (trace : Trace) :
    Does tracker (write settings tracker date tasks) trace
      (Worklog.entries settings ⟨date, time⟩ tasks) true := by
  unfold write
  rw [h]
  apply does_bind_of_onlyTells (onlyTells_liftExcept _)
  intro later
  rw [← List.append_nil (Worklog.entries _ _ _)]
  apply Does.bind
  . apply Does.mapError
    apply Worklog.does_write
  . intro count later _
    exact does_of_onlyTells (onlyTells_emit _) later

theorem after_write_of_error {invalid : JiraSettings.Invalid}
    (h : settings.startTime = .error invalid) (trace : Trace) :
    (write settings tracker date tasks).after trace = (.error (.invalid invalid), trace) := by
  unfold write
  rw [h]
  rfl

theorem does_write_of_error {invalid : JiraSettings.Invalid} (h : settings.startTime = .error invalid)
    (trace : Trace) : Does tracker (write settings tracker date tasks) trace [] false := by
  rw [does_nil_iff, after_write_of_error _ _ h]
  exact ⟨rfl, rfl⟩

theorem ok_of_write {trace later : Trace}
    (h : (write settings tracker date tasks).after trace = (.ok (), later)) :
    ∃ time events,
      settings.startTime = .ok time ∧
      later.events = .notice ⟨.logging, .success, true, (Message.allWorklogsWritten
        (Worklog.entries settings ⟨date, time⟩ tasks).length date.numeric).text⟩ :: events := by
  unfold write at h
  obtain ⟨time, _, htime, h⟩ := ok_of_after_bind h
  obtain ⟨count, written, hcount, h⟩ := ok_of_after_bind h
  rw [after_mapError, Prod.mk.injEq, mapError_eq_ok_iff] at hcount
  rw [after_sayFramed] at h
  cases h
  refine ⟨time, written.events, ?_, ?_⟩
  . rw [← mapError_eq_ok_iff]
    exact (onlyTells_liftExcept _).eq_of_after htime
  . rw [← Worklog.eq_length_of_write settings tracker (Prod.ext hcount.1 rfl)]
    rfl

theorem extends_write : (write settings tracker date tasks).Extends := by
  unfold write
  apply (extends_liftExcept _).bind
  intro time
  apply Extends.bind
  . apply Extends.mapError
    apply Worklog.extends_write
  . intro count
    apply extends_emit

end Finishing

end Workday.Logging
