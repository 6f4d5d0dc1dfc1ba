import Workday.Proofs.Duration
import Workday.Proofs.Logging.Plan
import Workday.Proofs.Timesheet

/-!
This module contains that no minute is lost between the command line and the tracker. The entries of
a timesheet, as they can be read back from the commands that make them, add up to the timesheet, and
the timesheet adds up to the day or to what was given.
-/

namespace Workday

/--
The task and the minutes that a command logs, as far as it logs work.
-/
def Command.logged? (command : Command) : Option (String × UInt32) :=
  match command.arguments with
  | "issue" :: "worklog" :: "add" :: id :: duration :: _ =>
    (Duration.parse? duration).map fun minutes => (id, minutes)
  | _ => none

theorem Errand.logged?_add (settings : JiraSettings) (id : String) (minutes : UInt32)
    (started : Moment) : (add settings id minutes started).command.logged? = some (id, minutes) := by
  simp [add, Client.addCommand, Command.logged?, Duration.parse?_render]

namespace Worklog

def logged (tasks : List Task) : List (String × UInt32) :=
  (tasks.filter fun task => 0 < task.spent).map fun task => (task.id, task.minutes.getD 0)

def loggedMinutes (entries : List (String × UInt32)) : Nat :=
  (entries.map fun entry => entry.2.toNat).sum

theorem map_logged?_entries (settings : JiraSettings) (started : Moment) (tasks : List Task) :
    (entries settings started tasks).map (fun errand => errand.command.logged?) =
      (logged tasks).map some := by
  unfold entries logged
  rw [List.map_map, List.map_map]
  apply List.map_congr_left
  intro task _
  exact Errand.logged?_add settings _ _ started

theorem length_logged (settings : JiraSettings) (started : Moment) (tasks : List Task) :
    (logged tasks).length = (entries settings started tasks).length := by
  unfold entries logged
  rw [List.length_map, List.length_map]

theorem loggedMinutes_logged (tasks : List Task) :
    loggedMinutes (logged tasks) = sumGiven tasks := by
  induction tasks with
  | nil => rfl
  | cons task tasks ih =>
    rw [sumGiven_cons, ← ih]
    unfold logged loggedMinutes
    rw [List.filter_cons]
    split
    . rfl
    . next hzero =>
      -- A task that is passed over has no minutes to lose.
      rw [decide_eq_true_iff, Nat.not_lt, Nat.le_zero] at hzero
      rw [hzero, Nat.zero_add]

theorem filter_logged (id : String) (tasks : List Task) :
    (logged tasks).filter (fun entry => entry.1 == id) =
      logged (tasks.filter fun task => task.id == id) := by
  unfold logged
  rw [List.filter_map, List.filter_filter, List.filter_filter]
  congr 1
  apply List.filter_congr
  intro task _
  apply Bool.and_comm

end Worklog

namespace Logging

open Run Errand

theorem filter_logsWork (settings : JiraSettings) (started : Moment) (tasks : List Task) :
    ((views settings tasks ++ Worklog.entries settings started tasks).map Errand.command).filter
        Command.logsWork =
      (Worklog.entries settings started tasks).map Errand.command := by
  rw [List.map_append, List.filter_append]
  rw [List.filter_eq_nil_iff.2, List.filter_eq_self.2, List.nil_append]
  . intro command hmem
    obtain ⟨errand, herrand, rfl⟩ := List.mem_map.1 hmem
    exact Worklog.logsWork_of_mem_entries herrand
  . intro command hmem
    obtain ⟨errand, herrand, rfl⟩ := List.mem_map.1 hmem
    rw [logsWork_of_mem_views herrand]
    exact Bool.false_ne_true

variable {surroundings : Surroundings} {environment : Environment} {request : LogRequest}
variable {trace : Trace}

theorem ok_of_writing (hwrite : request.write = true)
    (h : (runOf surroundings environment request).after Trace.empty = (.ok (), trace)) :
    ∃ settings sheet time events,
      Settings.read surroundings.tree (environment.lookup "HOME") = .ok settings ∧
      Timesheet.prepare settings.effective.project request.sloppy request.tokens = .ok sheet ∧
      trace.commands.reverse =
        (views settings.effective sheet.tasks ++
          Worklog.entries settings.effective ⟨request.date.getD surroundings.today, time⟩
            sheet.tasks).map Errand.command ∧
      trace.events = .notice ⟨.logging, .success, true, (Message.allWorklogsWritten
        (Worklog.logged sheet.tasks).length
        (request.date.getD surroundings.today).numeric).text⟩ :: events := by
  have hrun := h
  unfold runOf at hrun
  rw [run_eq_preview_bind_finish] at hrun
  obtain ⟨shown, later, hpreview, hfinish⟩ := ok_of_after_bind hrun
  obtain ⟨hne, ⟨settings, hstored, hsettings⟩, hsheet, _⟩ := ok_of_preview _ _ hpreview
  unfold finish at hfinish
  rw [if_pos hwrite] at hfinish
  obtain ⟨time, events, htime, hevents⟩ := ok_of_write _ _ hfinish
  rw [hsettings] at hsheet htime hevents
  refine ⟨settings, shown.sheet, time, events, hstored, hsheet, ?_, ?_⟩
  . have hdoes : Does surroundings.tracker (runOf surroundings environment request) Trace.empty
        (planned (Settings.read surroundings.tree (environment.lookup "HOME")) surroundings.today
          request)
        (isReady (Settings.read surroundings.tree (environment.lookup "HOME")) request) :=
      does_run hne
    have hplanned := planned_of_ok surroundings.today hstored hsheet
    rw [if_pos hwrite, plannedEntries, htime] at hplanned
    rw [hdoes.commands_of_ok h, hplanned]
    simp [executed, Trace.empty]
  . rw [hevents, Worklog.length_logged]

end Logging

end Workday
