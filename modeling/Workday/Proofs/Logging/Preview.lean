import Mathlib.Data.List.Forall2
import Workday.Proofs.Duration
import Workday.Proofs.Logging.Plan
import Workday.Proofs.Overview

/-!
This module contains that a run without writing shows what the same run with writing does. Both run
alike up to the timesheet, and the entries that are written then are those of the rows shown.
-/

namespace Workday

namespace Overview

/--
A command logs the time that a row shows on the task of the row.
-/
def Entry.IsLoggedBy (settings : JiraSettings) (started : Moment) (row : Entry)
    (command : Command) : Prop :=
  ∃ duration minutes,
    command = ⟨settings.binary, ["issue", "worklog", "add", row.id, duration, "--started",
      started.text, "--no-input"]⟩ ∧
    Duration.parse? duration = some minutes ∧
    clockMinutes? row.time = some minutes.toNat

variable (settings : JiraSettings) (started : Moment) (names : Names) (tasks : List Task)

theorem time_entry_ne_iff (task : Task) : (entry names task).time ≠ "00:00" ↔ 0 < task.spent := by
  rw [time_entry, show "00:00" = clock 0 by rfl, Ne, clock_eq_clock_iff, Nat.pos_iff_ne_zero]

theorem isLoggedBy_add (task : Task) :
    (entry names task).IsLoggedBy settings started
      (Errand.add settings task.id (task.minutes.getD 0) started).command := by
  refine ⟨Duration.render (task.minutes.getD 0), task.minutes.getD 0, rfl, ?_, ?_⟩
  . apply Duration.parse?_render
  . rw [time_entry, clockMinutes?_clock]
    rfl

theorem forall₂_isLoggedBy :
    List.Forall₂ (Entry.IsLoggedBy settings started)
      ((entries names tasks).filter fun row => row.time ≠ "00:00")
      ((Worklog.entries settings started tasks).map Errand.command) := by
  have hrows : (fun task => decide ((entry names task).time ≠ "00:00")) =
      fun task : Task => decide (0 < task.spent) := by
    funext task
    rw [decide_eq_decide]
    apply time_entry_ne_iff
  unfold entries Worklog.entries
  rw [List.filter_map, Function.comp_def, hrows, List.map_map]
  rw [List.forall₂_map_left_iff, List.forall₂_map_right_iff, List.forall₂_same]
  intro task _
  apply isLoggedBy_add

end Overview

theorem Worklog.map_command_entries (settings : JiraSettings) (started : Moment)
    (tasks : List Task) :
    ((entries settings started tasks).map Errand.command).map (Errand.mk · false) =
      entries settings started tasks := by
  unfold entries
  rw [List.map_map, List.map_map]
  rfl

namespace Logging

open Run Errand

variable {surroundings : Surroundings} {environment : Environment} {request : LogRequest}
variable {shown : Shown} {trace : Trace}

def previewOf (surroundings : Surroundings) (environment : Environment) (request : LogRequest) :
    Run Failure Shown :=
  preview (Settings.read surroundings.tree (environment.lookup "HOME")) surroundings.tracker
    (request.date.getD surroundings.today) request.sloppy request.tokens

theorem runOf_eq_previewOf_bind (isWritten : Bool) :
    runOf surroundings environment { request with write := isWritten } =
      previewOf surroundings environment request >>=
        finish surroundings.tracker (request.date.getD surroundings.today) isWritten := by
  unfold runOf previewOf
  rw [run_eq_preview_bind_finish]

theorem answer_of_previewOf_error {failure : Failure}
    (h : (previewOf surroundings environment request).after Trace.empty = (.error failure, trace))
    (isWritten : Bool) :
    Program.answer surroundings environment (.log { request with write := isWritten }) =
      Program.answer.conclude environment ⟨some failure, surroundings.tree, trace⟩ := by
  apply answer_of_error
  rw [runOf_eq_previewOf_bind]
  exact after_bind_of_error h _

section Shown

variable (h : (previewOf surroundings environment request).after Trace.empty = (.ok shown, trace))

include h

theorem answer_dry_of_previewOf_ok :
    Program.answer surroundings environment (.log { request with write := false }) =
      ⟨.exited 0, none,
        (Program.display environment).renderAll trace.events.reverse ++
          (Program.display environment).render
            (.notice ⟨.logging, .info, true, Message.dryRun.text⟩),
        trace.commands.reverse, surroundings.tree⟩ := by
  have hrun : (runOf surroundings environment { request with write := false }).after Trace.empty =
      (.ok (), trace.record (.notice ⟨.logging, .info, true, Message.dryRun.text⟩)) := by
    rw [runOf_eq_previewOf_bind, after_bind_of_ok h]
    rfl
  rw [answer_of_ok hrun, Trace.record, List.reverse_cons, Display.renderAll_concat]

theorem after_runOf_writing :
    (runOf surroundings environment { request with write := true }).after Trace.empty =
      (write shown.settings surroundings.tracker (request.date.getD surroundings.today)
        shown.sheet.tasks).after trace := by
  rw [runOf_eq_previewOf_bind, after_bind_of_ok h]
  rfl

theorem commands_answer_writing {time : TimeOfDay} (htime : shown.settings.startTime = .ok time) :
    (Program.answer surroundings environment (.log { request with write := true })).commands =
      trace.commands.reverse ++
        (attempted surroundings.tracker trace.commands (Worklog.entries shown.settings
          ⟨request.date.getD surroundings.today, time⟩ shown.sheet.tasks)).map Errand.command := by
  rw [commands_answer, after_runOf_writing h, (does_write_of_ok _ _ htime trace).commands_eq]
  simp [executed]

theorem answer_writing_of_invalid {invalid : JiraSettings.Invalid}
    (htime : shown.settings.startTime = .error invalid) :
    Program.answer surroundings environment (.log { request with write := true }) =
      Program.answer.conclude environment
        ⟨some (.invalid invalid), surroundings.tree, trace⟩ := by
  apply answer_of_error
  rw [after_runOf_writing h, after_write_of_error _ _ htime]

theorem isBefore_writing :
    trace.IsBefore
      ((runOf surroundings environment { request with write := true }).after Trace.empty).2 := by
  rw [after_runOf_writing h]
  apply extends_write

theorem table_mem_events :
    .table (Overview.table shown.names shown.sheet.tasks) ∈ trace.events.reverse := by
  obtain ⟨_, _, _, _, _, _, hevents⟩ := ok_of_preview _ _ h
  rw [hevents, List.mem_reverse]
  simp [presented]

end Shown

/--
A run without writing is a faithful preview of the same run with writing. If it fails the other run
comes out the same. Otherwise the other run goes on from what was shown, with an entry for every row
whose time is not zero up to the first one that fails, or with a failure for want of a start time.
-/
theorem answer_log_previews_writing (surroundings : Surroundings) (environment : Environment)
    (request : LogRequest) :
    let dry := Program.answer surroundings environment (.log { request with write := false })
    let wet := Program.answer surroundings environment (.log { request with write := true })
    let display := Program.display environment
    (dry.ending ≠ .exited 0 → wet = dry) ∧
    (dry.ending = .exited 0 →
      ∃ settings sheet names before rest,
        Settings.read surroundings.tree (environment.lookup "HOME") = .ok settings ∧
        Timesheet.prepare settings.effective.project request.sloppy request.tokens = .ok sheet ∧
        (∃ head tail, before =
          head ++ display.render (.table (Overview.table names sheet.tasks)) ++ tail) ∧
        dry.output =
          before ++ display.render (.notice ⟨.logging, .info, true, Message.dryRun.text⟩) ∧
        wet.output = before ++ rest ∧
        dry.commands <+: wet.commands ∧
        (∀ time, settings.effective.startTime = .ok time →
          ∃ commands,
            List.Forall₂
              (Overview.Entry.IsLoggedBy settings.effective
                ⟨request.date.getD surroundings.today, time⟩)
              ((Overview.entries names sheet.tasks).filter fun row => row.time ≠ "00:00")
              commands ∧
            wet.commands = dry.commands ++
              (attempted surroundings.tracker dry.commands.reverse
                (commands.map (Errand.mk · false))).map Errand.command) ∧
        (∀ invalid, settings.effective.startTime = .error invalid →
          wet.commands = dry.commands ∧ wet.ending = .exited 1)) := by
  intro dry wet display
  cases h : (previewOf surroundings environment request).after Trace.empty with
  | mk outcome trace =>
    cases outcome with
    | error failure =>
      -- A preview that fails never comes to where the two runs differ.
      have heq : wet = dry := by
        rw [show wet = _ from answer_of_previewOf_error h true]
        rw [show dry = _ from answer_of_previewOf_error h false]
      refine ⟨fun _ => heq, ?_⟩
      intro hzero
      rw [show dry = _ from answer_of_previewOf_error h false] at hzero
      exact absurd hzero (Conclusion.ending_ne_exited_zero failure)
    | ok shown =>
      have hdry : dry = _ := answer_dry_of_previewOf_ok h
      have hcommands : dry.commands = trace.commands.reverse := by rw [hdry]
      obtain ⟨_, ⟨settings, hstored, hsettings⟩, hsheet, _⟩ := ok_of_preview _ _ h
      obtain ⟨rest, hrest⟩ := output_answer_of_isBefore (isBefore_writing h)
      refine ⟨fun hfail => absurd (by rw [hdry]) hfail, fun _ => ?_⟩
      refine ⟨settings, shown.sheet, shown.names, display.renderAll trace.events.reverse, rest,
        hstored, ?_, display.exists_renderAll_of_mem (table_mem_events h), ?_, hrest, ?_, ?_, ?_⟩
      . rw [← hsettings]
        exact hsheet
      . rw [hdry]
      . rw [hcommands, show wet.commands = _ from commands_answer, List.reverse_prefix]
        exact (isBefore_writing h).1
      . intro time htime
        rw [← hsettings] at htime ⊢
        refine ⟨_, Overview.forall₂_isLoggedBy shown.settings _ shown.names shown.sheet.tasks, ?_⟩
        rw [Worklog.map_command_entries, hcommands, List.reverse_reverse]
        exact commands_answer_writing h htime
      . intro invalid htime
        rw [← hsettings] at htime
        rw [show wet = _ from answer_writing_of_invalid h htime, hcommands]
        exact ⟨rfl, rfl⟩

theorem answer_log_previews_split_day :
    let request : LogRequest := ⟨["622", "3h30m", "623"], false, false, none⟩
    let dry := Program.answer (sampleDay 3) (sampleDay 3).environment (.log request)
    let wet := Program.answer (sampleDay 3) (sampleDay 3).environment
      (.log { request with write := true })
    let display := Program.display (sampleDay 3).environment
    dry.ending = .exited 0 ∧ wet.ending = .exited 1 ∧ dry.commands <+: wet.commands ∧
      ∃ before rest,
        dry.output =
          before ++ display.render (.notice ⟨.logging, .info, true, Message.dryRun.text⟩) ∧
        wet.output = before ++ rest := by
  intro request dry wet display
  have hzero : dry.ending = .exited 0 := by decide +kernel
  have hone : wet.ending = .exited 1 := by decide +kernel
  obtain ⟨_, _, _, before, rest, _, _, _, hdry, hwet, hcommands, _⟩ :=
    (answer_log_previews_writing (sampleDay 3) (sampleDay 3).environment request).2 hzero
  exact ⟨hzero, hone, hcommands, before, rest, hdry, hwet⟩

end Logging

end Workday
