import Workday.Proofs.Logging
import Workday.Proofs.Outcome

/-!
This module contains the plan of a run that logs a day: the errands that it sets out to do once the
settings are read and the timesheet is prepared. The commands that a run executes are those of its
plan up to and including the first one that fails.
-/

namespace Workday.Logging

open Run Errand

def plannedEntries (settings : JiraSettings) (date : Date) (tasks : List Task) : List Errand :=
  match settings.startTime with
  | .ok time => Worklog.entries settings ⟨date, time⟩ tasks
  | .error _ => []

/--
The errands of a run. Without settings or without a timesheet there are none. Otherwise every task
is looked up once, and then an entry is made for every task with minutes if that was asked for.
-/
def planned (stored : Except Unusable Settings) (today : Date) (request : LogRequest) :
    List Errand :=
  match stored with
  | .error _ => []
  | .ok settings =>
    match Timesheet.prepare settings.effective.project request.sloppy request.tokens with
    | .error _ => []
    | .ok sheet =>
      views settings.effective sheet.tasks ++
        if request.write then
          plannedEntries settings.effective (request.date.getD today) sheet.tasks
        else
          []

variable {stored : Except Unusable Settings} {tracker : Tracker} {today date : Date}
variable {settings : Settings} {sheet : Timesheet} {request : LogRequest} {trace : Trace}

theorem planned_of_ok (today : Date) (hstored : stored = .ok settings)
    (hsheet : Timesheet.prepare settings.effective.project request.sloppy request.tokens =
      .ok sheet) :
    planned stored today request =
      views settings.effective sheet.tasks ++
        if request.write then
          plannedEntries settings.effective (request.date.getD today) sheet.tasks
        else
          [] := by
  rw [hstored]
  unfold planned
  dsimp only
  rw [hsheet]

theorem does_finish (shown : Shown) (isWritten : Bool) :
    Does tracker (finish tracker date isWritten shown) trace
      (if isWritten then plannedEntries shown.settings date shown.sheet.tasks else [])
      (!isWritten || shown.settings.startTime.isOk) := by
  unfold finish plannedEntries
  cases isWritten with
  | false => exact does_of_onlyTells (onlyTells_emit _) trace
  | true =>
    simp only [↓reduceIte, Bool.not_true, Bool.false_or]
    split
    . next time h =>
      rw [h]
      exact does_write_of_ok _ _ h trace
    . next invalid h =>
      rw [h]
      exact does_write_of_error _ _ h trace

/--
Whether a run can only fail by its errands.
-/
def isReady (stored : Except Unusable Settings) (request : LogRequest) : Bool :=
  match stored with
  | .error _ => false
  | .ok settings =>
    (Timesheet.prepare settings.effective.project request.sloppy request.tokens).isOk &&
      (!request.write || settings.effective.startTime.isOk)

theorem isReady_iff :
    isReady stored request = true ↔
      ∃ settings sheet,
        stored = .ok settings ∧
        Timesheet.prepare settings.effective.project request.sloppy request.tokens = .ok sheet ∧
        (request.write = true → ∃ time, settings.effective.startTime = .ok time) := by
  unfold isReady
  split
  . simp
  . next settings =>
    cases hsheet : Timesheet.prepare settings.effective.project request.sloppy request.tokens with
    | error => simp [hsheet, Except.isOk, Except.toBool]
    | ok sheet =>
      cases htime : settings.effective.startTime <;> cases request.write <;>
        simp [hsheet, htime, Except.isOk, Except.toBool]

theorem does_run (hne : request.tokens ≠ []) :
    Does tracker (run stored tracker today request) trace (planned stored today request)
      (isReady stored request) := by
  rw [run_eq_preview_bind_finish]
  unfold planned isReady
  split
  . apply Does.bind_of_stops
    apply does_preview_of_error
    rfl
  . next settings =>
    cases hsheet : Timesheet.prepare settings.effective.project request.sloppy request.tokens with
    | error refusal =>
      apply Does.bind_of_stops
      exact does_preview_of_refusal _ _ rfl hsheet trace
    | ok sheet =>
      apply Does.bind
      . exact does_preview_of_ok _ _ hne rfl hsheet trace
      . intro shown later h
        obtain ⟨_, ⟨_, hstored, hsettings⟩, hsheet', _⟩ := ok_of_preview _ _ h
        cases hstored
        rw [hsettings, hsheet] at hsheet'
        cases hsheet'
        rw [← hsettings]
        apply does_finish

theorem allSucceed_views_of_logsWork {command : Command}
    (h : command ∈ (attempted tracker [] (planned stored today request)).map Errand.command)
    (hwork : command.logsWork = true) :
    ∃ settings sheet,
      stored = .ok settings ∧
      Timesheet.prepare settings.effective.project request.sloppy request.tokens = .ok sheet ∧
      allSucceed tracker [] (views settings.effective sheet.tasks) = true := by
  unfold planned at h
  split at h
  . simp [attempted] at h
  . next settings =>
    split at h
    . simp [attempted] at h
    . next sheet hsheet =>
      refine ⟨settings, sheet, rfl, hsheet, ?_⟩
      cases hviews : allSucceed tracker [] (views settings.effective sheet.tasks) with
      | true => rfl
      | false =>
        -- Once a view has failed only views are attempted, and none of them logs work.
        rw [attempted_append_of_fail hviews, List.mem_map] at h
        obtain ⟨errand, hmem, hcommand⟩ := h
        rw [← hcommand, logsWork_of_mem_views ((attempted_isPrefix _).subset hmem)] at hwork
        contradiction

/--
A day without a file of settings, and a tracker that executes a number of commands before it starts
to fail.
-/
def sampleDay (limit : Nat) : Surroundings where
  today := ⟨2025, 5, 5, by decide, by decide, by decide, by decide⟩
  environment := [("HOME", "/home")]
  tree := ⟨["home"], []⟩
  terminal := none
  tracker := ⟨fun earlier _ => .exited (if earlier.length < limit then 0 else 1) "# Title" ""⟩

end Workday.Logging
