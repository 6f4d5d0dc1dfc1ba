import Workday.Proofs.Logging.Conservation
import Workday.Proofs.Worklog.Calls

/-!
This module contains which calls the pass that logs the work of a timesheet makes of an issue
tracker, whatever the tracker answers: one for each task with minutes, in order, until one fails. The
entries that are made add up to the timesheet if none fails.
-/

namespace Workday

def Call.minutes : Call → Nat
  | title _ => 0
  | entry _ minutes _ => minutes.toNat

namespace Worklog

variable {task : Task}

/--
The calls that log the work of tasks with minutes.
-/
def entryCalls (started : Moment) (tasks : List Task) : List Call :=
  (tasks.filter fun task => 0 < task.spent).map fun task =>
    .entry task.id (task.minutes.getD 0) started

theorem entryCalls_cons_of_zero (h : task.minutes.getD 0 = 0) (started : Moment)
    (tasks : List Task) : entryCalls started (task :: tasks) = entryCalls started tasks := by
  unfold entryCalls
  rw [filter_spent_cons_of_zero h]

theorem entryCalls_cons_of_positive (h : task.minutes.getD 0 ≠ 0) (started : Moment)
    (tasks : List Task) :
    entryCalls started (task :: tasks) =
      .entry task.id (task.minutes.getD 0) started :: entryCalls started tasks := by
  unfold entryCalls
  rw [filter_spent_cons_of_positive h, List.map_cons]

theorem sum_minutes_entryCalls (started : Moment) (tasks : List Task) :
    ((entryCalls started tasks).map Call.minutes).sum = sumGiven tasks := by
  rw [← loggedMinutes_logged]
  unfold entryCalls logged loggedMinutes
  rw [List.map_map, List.map_map]
  rfl

end Worklog

namespace Answers

open Worklog

variable {answers : Answers} {earlier : List Call} {started : Moment} {task : Task}
variable {tasks : List Task}

section Step

theorem after_write_of_zero (h : task.minutes.getD 0 = 0) :
    Session.after (answers.desk.write started (task :: tasks)) earlier =
      Session.after (answers.desk.write started tasks) earlier := by
  rw [IssueDesk.write, if_pos h]

theorem after_write_of_ok {answer : Unit} (hpositive : task.minutes.getD 0 ≠ 0)
    (h : answers.respond earlier (.entry task.id (task.minutes.getD 0) started) = .ok answer) :
    Session.after (answers.desk.write started (task :: tasks)) earlier =
      let rest := Session.after (answers.desk.write started tasks)
        (earlier ++ [.entry task.id (task.minutes.getD 0) started])
      (rest.1.map (1 + ·), rest.2) := by
  rw [IssueDesk.write, if_neg hpositive]
  exact (after_failWith_bind_of_ok h).trans (Session.after_bind_pure _ _ _)

theorem after_write_of_error {cause : TrackerError} (hpositive : task.minutes.getD 0 ≠ 0)
    (h : answers.respond earlier (.entry task.id (task.minutes.getD 0) started) = .error cause) :
    Session.after (answers.desk.write started (task :: tasks)) earlier =
      (.error ⟨task.id, cause⟩, earlier ++ [.entry task.id (task.minutes.getD 0) started]) := by
  rw [IssueDesk.write, if_neg hpositive]
  exact after_failWith_bind_of_error h

end Step

theorem makes_write (started : Moment) (tasks : List Task) (earlier : List Call) :
    answers.Makes earlier (entryCalls started tasks)
      (Session.after (answers.desk.write started tasks) earlier) := by
  induction tasks generalizing earlier with
  | nil => exact makes_nil 0
  | cons task tasks ih =>
    by_cases hzero : task.minutes.getD 0 = 0
    . rw [after_write_of_zero hzero, entryCalls_cons_of_zero hzero]
      apply ih
    . rw [entryCalls_cons_of_positive hzero]
      cases hcall : answers.respond earlier (.entry task.id (task.minutes.getD 0) started) with
      | ok answer =>
        rw [after_write_of_ok hzero hcall]
        exact .cons hcall ((ih _).map _)
      | error cause =>
        rw [after_write_of_error hzero hcall]
        exact makes_cons_of_error hcall

theorem count_of_write {count : Nat}
    (h : (Session.after (answers.desk.write started tasks) earlier).1 = .ok count) :
    count = (entryCalls started tasks).length := by
  induction tasks generalizing earlier count with
  | nil =>
    cases h
    rfl
  | cons task tasks ih =>
    by_cases hzero : task.minutes.getD 0 = 0
    . rw [after_write_of_zero hzero] at h
      rw [entryCalls_cons_of_zero hzero]
      exact ih h
    . rw [entryCalls_cons_of_positive hzero, List.length_cons]
      cases hcall : answers.respond earlier (.entry task.id (task.minutes.getD 0) started) with
      | ok answer =>
        rw [after_write_of_ok hzero hcall] at h
        dsimp only at h
        obtain ⟨rest, hrest, rfl⟩ := Json.map_eq_ok_iff.1 h
        rw [ih hrest]
        omega
      | error cause =>
        rw [after_write_of_error hzero hcall] at h
        contradiction

/--
The work of a timesheet is logged with one call for each task with minutes, in order and as they are
given, up to the first one that fails. The pass succeeds exactly if all of these calls are made and
answered, with their number, and then they have logged all minutes of the timesheet, which is their
total if 64 bits hold it. Otherwise only the last call failed, and the pass fails with its task and
its error.
-/
theorem write_calls (answers : Answers) (started : Moment) (tasks : List Task) :
    let planned := entryCalls started tasks
    let result := Session.after (answers.desk.write started tasks) []
    result.2 <+: planned ∧
    (∀ count, result.1 = .ok count ↔
      result.2 = planned ∧ answers.AcceptsAfter [] result.2 ∧ count = result.2.length) ∧
    (∀ count, result.1 = .ok count →
      (result.2.map Call.minutes).sum = sumGiven tasks ∧
      (sumGiven tasks < 2 ^ 64 →
        (result.2.map Call.minutes).sum = (totalMinutes tasks).toNat)) ∧
    (∀ failure, result.1 = .error failure →
      ∃ before minutes,
        result.2 = before ++ [.entry failure.id minutes started] ∧
        answers.AcceptsAfter [] before ∧
        answers.respond before (.entry failure.id minutes started) = .error failure.cause) := by
  intro planned result
  have hmakes : answers.Makes [] planned result := makes_write started tasks []
  refine ⟨hmakes.isPrefix, ?_, ?_, ?_⟩
  . intro count
    constructor
    . intro hcount
      obtain ⟨hcalls, haccepts⟩ := hmakes.of_ok hcount
      rw [List.nil_append] at hcalls
      rw [hcalls]
      exact ⟨rfl, haccepts, count_of_write hcount⟩
    . rintro ⟨hcalls, haccepts, rfl⟩
      rw [hcalls] at haccepts ⊢
      obtain ⟨count, hcount⟩ := hmakes.exists_ok haccepts
      rw [hcount, count_of_write hcount]
  . intro count hcount
    obtain ⟨hcalls, _⟩ := hmakes.of_ok hcount
    rw [hcalls, List.nil_append, sum_minutes_entryCalls]
    exact ⟨rfl, fun hfit => (toNat_totalMinutes_of_lt hfit).symm⟩
  . intro failure hfailure
    obtain ⟨before, call, after, hplanned, hcalls, haccepts, hid, hcall⟩ := hmakes.of_error hfailure
    rw [List.nil_append] at hcalls hcall
    have hmem : call ∈ planned := by
      rw [hplanned]
      exact List.mem_append_right _ List.mem_cons_self
    obtain ⟨task, _, rfl⟩ := List.mem_map.1 hmem
    rw [show failure.id = task.id from hid]
    exact ⟨before, task.minutes.getD 0, hcalls, haccepts, hcall⟩

theorem write_calls_of_passed_over :
    let tasks : List Task := [⟨"LP-2", some 30⟩, ⟨"LP-1", none⟩, ⟨"LP-3", some 0⟩, ⟨"LP-2", some 90⟩]
    let started : Moment := ⟨⟨2025, 6, 2, by decide, by decide, by decide, by decide⟩,
      ⟨9, 30, 0, by decide, by decide, by decide⟩⟩
    let written := Session.after ((tiringAnswers 2).desk.write started tasks) []
    let failed := Session.after ((tiringAnswers 1).desk.write started tasks) []
    written.1 = .ok 2 ∧ written.2 = [.entry "LP-2" 30 started, .entry "LP-2" 90 started] ∧
      sumGiven tasks < 2 ^ 64 ∧
      (written.2.map Call.minutes).sum = (totalMinutes tasks).toNat ∧
      failed.1 = .error ⟨"LP-2", .commandFailed 1 "tired"⟩ ∧
      ∃ before minutes, failed.2 = before ++ [.entry "LP-2" minutes started] ∧
        (tiringAnswers 1).AcceptsAfter [] before := by
  intro tasks started written failed
  have hwritten : written.1 = .ok 2 := rfl
  have hfit : sumGiven tasks < 2 ^ 64 := by decide
  have hfailed : failed.1 = .error ⟨"LP-2", .commandFailed 1 "tired"⟩ := rfl
  obtain ⟨_, hok, hsum, _⟩ := write_calls (tiringAnswers 2) started tasks
  obtain ⟨_, _, _, herror⟩ := write_calls (tiringAnswers 1) started tasks
  obtain ⟨before, minutes, hcalls, haccepts, _⟩ := herror _ hfailed
  exact ⟨hwritten, ((hok 2).1 hwritten).1, hfit, (hsum 2 hwritten).2 hfit, hfailed, before, minutes,
    hcalls, haccepts⟩

/--
The total of the minutes falls behind the minutes that are logged once 64 bits do not hold these.
-/
theorem write_exceeds_total_of_overflow :
    let answers : Answers := ⟨fun
      | _, .title _ => .ok "Title"
      | _, .entry .. => .ok ()⟩
    let started : Moment := ⟨⟨2025, 6, 3, by decide, by decide, by decide, by decide⟩,
      ⟨9, 30, 0, by decide, by decide, by decide⟩⟩
    let result := Session.after (answers.desk.write started overflowing) []
    (∃ count, result.1 = .ok count) ∧ (result.2.map Call.minutes).sum = 2 ^ 64 + 100 ∧
      (totalMinutes overflowing).toNat = 100 := by
  intro answers started result
  have hmakes : answers.Makes [] (entryCalls started overflowing) result :=
    makes_write started overflowing []
  have haccepts : answers.AcceptsAfter [] (entryCalls started overflowing) := by
    intro _ call _ _
    cases call <;> exact ⟨_, rfl⟩
  obtain ⟨count, hcount⟩ := hmakes.exists_ok haccepts
  refine ⟨⟨count, hcount⟩, ?_, ?_⟩
  . rw [(hmakes.of_ok hcount).1, List.nil_append, sum_minutes_entryCalls, sumGiven_overflowing]
  . rw [toNat_totalMinutes, sumGiven_overflowing]
    decide

end Answers

end Workday
