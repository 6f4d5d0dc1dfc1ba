import Workday.Proofs.Calendar.TimeOfDay
import Workday.Proofs.Logging

/-!
This module contains the start time of a day's work on its way from the settings to the commands
that log the work. It may be set in many ways, but all commands are given it in one notation. That
notation is read as the same time, so it tells which time was set and nothing else of the setting.
-/

namespace Workday

/--
The argument that tells when work was started, if the command logs work.
-/
def Command.started? (command : Command) : Option String :=
  match command.arguments with
  | [_, _, _, _, _, "--started", started, _] => some started
  | _ => none

theorem Client.started?_addCommand (settings : JiraSettings) (id : String) (minutes : UInt32)
    (started : Moment) :
    (addCommand settings id minutes started).started? = some started.text := rfl

theorem Moment.text_inj_right {date : Date} {time other : TimeOfDay} :
    text ⟨date, time⟩ = text ⟨date, other⟩ ↔ time = other := by
  unfold text
  rw [String.append_right_inj, TimeOfDay.text_inj]

theorem JiraSettings.startTime_eq_ok_iff {settings : JiraSettings} {time : TimeOfDay} :
    settings.startTime = .ok time ↔ TimeOfDay.parse? settings.startedAt = some time := by
  unfold startTime
  split
  . next h => simp [h]
  . next h => simp [h]

namespace Run

open Errand

variable {ε α : Type} {tracker : Tracker}

def commandsFrom (run : Run ε α) (trace : Trace) : List Command :=
  (run.after trace).2.commands.reverse.drop trace.commands.length

theorem Does.commandsFrom_eq {run : Run ε α} {trace : Trace} {errands : List Errand}
    {completes : Bool} (h : Does tracker run trace errands completes) :
    run.commandsFrom trace = (attempted tracker trace.commands errands).map Errand.command := by
  unfold commandsFrom
  rw [h.commands_eq, executed, List.reverse_append, List.reverse_reverse, List.drop_left']
  exact List.length_reverse

end Run

namespace Logging

open Run Errand

variable {settings : JiraSettings} {tracker : Tracker} {date : Date} {tasks : List Task}
variable {trace : Trace} {command : Command} {time : TimeOfDay} {started : Option String}

/--
Some command that is executed to write a day with these settings has this argument, or none, for the
start of the work.
-/
def GivesStart (settings : JiraSettings) (date : Date) (started : Option String) : Prop :=
  ∃ tracker trace tasks,
    ∃ command ∈ (write settings tracker date tasks).commandsFrom trace, command.started? = started

theorem started?_of_mem_commandsFrom
    (h : command ∈ (write settings tracker date tasks).commandsFrom trace) :
    ∃ time, settings.startTime = .ok time ∧ command.started? = some (Moment.text ⟨date, time⟩) := by
  cases htime : settings.startTime with
  | error invalid =>
    rw [(does_write_of_error tracker date htime trace).commandsFrom_eq] at h
    contradiction
  | ok time =>
    rw [(does_write_of_ok tracker date htime trace).commandsFrom_eq, List.mem_map] at h
    obtain ⟨errand, hattempted, rfl⟩ := h
    obtain ⟨task, _, _, rfl⟩ :=
      Worklog.exists_task_of_mem_entries ((attempted_isPrefix _).subset hattempted)
    exact ⟨time, rfl, Client.started?_addCommand settings task.id _ _⟩

-- The first entry is attempted whatever the tracker makes of it.
theorem givesStart_of_ok (h : settings.startTime = .ok time) (date : Date) :
    GivesStart settings date (some (Moment.text ⟨date, time⟩)) := by
  let tracker : Tracker := ⟨fun _ _ => .unstartable ""⟩
  refine ⟨tracker, Trace.empty, [⟨"", some 1⟩],
    Client.addCommand settings "" 1 ⟨date, time⟩, ?_, Client.started?_addCommand settings "" 1 _⟩
  rw [(does_write_of_ok tracker date h Trace.empty).commandsFrom_eq]
  exact List.mem_singleton_self _

theorem givesStart_iff (h : settings.startTime = .ok time) :
    GivesStart settings date started ↔ started = some (Moment.text ⟨date, time⟩) := by
  constructor
  . intro ⟨_, _, _, command, hcommand, hstarted⟩
    obtain ⟨time', htime, hsome⟩ := started?_of_mem_commandsFrom hcommand
    rw [h] at htime
    cases htime
    rw [← hstarted, hsome]
  . rintro rfl
    exact givesStart_of_ok h date

/--
The start time that is set can be read exactly if it is an hour up to 23, a minute up to 59 and a
second up to 60, of one or two digits each and with nothing but white space in front of them. Then
every command that logs the work of a day is given the day and one notation of the time, which is
read as this time again. Two settings give the same argument exactly if they set the same time.
-/
theorem write_starts_as_set (settings : JiraSettings) :
    ((∃ time, settings.startTime = .ok time) ↔
      ∃ hour ≤ 23, ∃ minute ≤ 59, ∃ second ≤ 60,
        TimeOfDay.Denotes settings.startedAt.toList hour minute second) ∧
    ∀ time, settings.startTime = .ok time →
      TimeOfDay.Denotes settings.startedAt.toList time.hour time.minute time.second ∧
      (∃ text,
        TimeOfDay.IsNotation text.toList ∧
        JiraSettings.startTime { settings with startedAt := text } = .ok time ∧
        ∀ date started,
          GivesStart settings date started ↔ started = some (date.numeric ++ " " ++ text)) ∧
      ∀ other otherTime, other.startTime = .ok otherTime → ∀ date,
        ((∃ started, GivesStart settings date started ∧ GivesStart other date started) ↔
          time = otherTime) := by
  constructor
  . simp only [JiraSettings.startTime_eq_ok_iff]
    exact TimeOfDay.exists_parse?_eq_some_iff
  . intro time htime
    refine ⟨?_, ⟨time.text, time.isNotation_text, ?_, ?_⟩, ?_⟩
    . rw [JiraSettings.startTime_eq_ok_iff] at htime
      exact TimeOfDay.parse?_eq_some_iff.1 htime
    . rw [JiraSettings.startTime_eq_ok_iff]
      exact time.parse?_text
    . intro date started
      exact givesStart_iff htime
    . intro other otherTime hother date
      simp only [givesStart_iff htime, givesStart_iff hother, exists_eq_left, Option.some.injEq,
        Moment.text_inj_right]

theorem write_starts_in_leap_second :
    let settings : JiraSettings := ⟨"jira", "LP", "7:\u200308:60"⟩
    let other : JiraSettings := ⟨"client", "OPS", "07:8:\u00a060"⟩
    let time : TimeOfDay := ⟨7, 8, 60, by decide, by decide, by decide⟩
    let date : Date := ⟨2022, 12, 31, by decide, by decide, by decide, by decide⟩
    settings.startTime = .ok time ∧ other.startTime = .ok time ∧
      TimeOfDay.Denotes settings.startedAt.toList 7 8 60 ∧
      ∃ text,
        JiraSettings.startTime { settings with startedAt := text } = .ok time ∧
        date.numeric ++ " " ++ text = "2022-12-31 07:08:60" ∧
        GivesStart other date (some "2022-12-31 07:08:60") := by
  intro settings other time date
  let tracker : Tracker := ⟨fun _ _ => .exited 0 "" ""⟩
  have htime : settings.startTime = .ok time :=
    JiraSettings.startTime_eq_ok_iff.2 (by decide +kernel)
  have hother : other.startTime = .ok time :=
    JiraSettings.startTime_eq_ok_iff.2 (by decide +kernel)
  have hcommands :
      (write settings tracker date [⟨"LP-1", some 90⟩]).commandsFrom Trace.empty =
        [⟨"jira", ["issue", "worklog", "add", "LP-1", "1h30m", "--started", "2022-12-31 07:08:60",
          "--no-input"]⟩] := by
    decide +kernel
  have hrun : GivesStart settings date (some "2022-12-31 07:08:60") :=
    ⟨tracker, Trace.empty, _, _, hcommands ▸ List.mem_singleton_self _, rfl⟩
  obtain ⟨hdenotes, ⟨text, _, hread, hgives⟩, hsame⟩ := (write_starts_as_set settings).2 time htime
  obtain ⟨started, hstarted, hgiven⟩ := (hsame other time hother date).2 rfl
  have htext := (hgives date _).1 hrun
  rw [(hgives date started).1 hstarted, ← htext] at hgiven
  exact ⟨htime, hother, hdenotes, text, hread, (Option.some.inj htext).symm, hgiven⟩

end Logging

end Workday
