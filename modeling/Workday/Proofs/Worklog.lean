import Workday.Proofs.Errand
import Workday.Worklog

/-!
This module contains what the two passes over a timesheet do with the tracker. Looking up the names
views every task that is not known yet, once and in the order in which the tasks first occur.
Writing adds an entry for every task with minutes. Both pass over the rest without a command.
-/

namespace Workday

theorem isSome_lookup_eq (known : Names) (id : String) :
    (known.lookup id).isSome = (known.map Prod.fst).contains id := by
  induction known with
  | nil => rfl
  | cons entry known ih =>
    rw [List.lookup_cons, List.map_cons, List.contains_cons, ← ih]
    cases id == entry.1 <;> rfl

theorem exists_lookup_of_mem_keys {known : Names} {id : String} (h : id ∈ known.map Prod.fst) :
    ∃ name, known.lookup id = some name ∧ (id, name) ∈ known := by
  rw [← List.contains_iff_mem, ← isSome_lookup_eq] at h
  obtain ⟨name, hname⟩ := Option.isSome_iff_exists.1 h
  obtain ⟨front, back, hentries, _⟩ := List.lookup_eq_some_iff.1 hname
  refine ⟨name, hname, ?_⟩
  rw [hentries]
  exact List.mem_append_right _ List.mem_cons_self

namespace Worklog

open Run

variable (settings : JiraSettings) (tracker : Tracker)

/--
The keys of the tasks beside those that are known, each of them once.
-/
def unknownIds (known : List String) (tasks : List Task) : List String :=
  ((tasks.map Task.id).filter fun id => !known.contains id).eraseDups

@[simp]
theorem unknownIds_nil (known : List String) : unknownIds known [] = [] := rfl

theorem unknownIds_cons_of_known {known : List String} {task : Task}
    (h : known.contains task.id = true) (tasks : List Task) :
    unknownIds known (task :: tasks) = unknownIds known tasks := by
  unfold unknownIds
  rw [List.map_cons, List.filter_cons]
  simp only [h, Bool.not_true, Bool.false_eq_true, ↓reduceIte]

theorem unknownIds_cons_of_unknown {known : List String} {task : Task}
    (h : known.contains task.id = false) (tasks : List Task) :
    unknownIds known (task :: tasks) = task.id :: unknownIds (task.id :: known) tasks := by
  unfold unknownIds
  rw [List.map_cons, List.filter_cons]
  simp only [h, Bool.not_false, ↓reduceIte]
  rw [List.eraseDups_cons, List.filter_filter]
  congr 2
  apply List.filter_congr
  intro id _
  rw [List.contains_cons, Bool.not_or]

theorem unknownIds_of_nothing_known (tasks : List Task) :
    unknownIds [] tasks = (tasks.map Task.id).eraseDups := by
  unfold unknownIds
  congr 1
  apply List.filter_eq_self.2
  intro id _
  rfl

theorem does_lookupNames (known : Names) (tasks : List Task) (trace : Trace) :
    Does tracker (lookupNames settings tracker known tasks) trace
      ((unknownIds (known.map Prod.fst) tasks).map (Errand.view settings)) true := by
  -- Every name that is found is known to the rest of the pass.
  induction tasks generalizing known trace with
  | nil =>
    rw [lookupNames_nil, unknownIds_nil, List.map_nil, does_nil_iff]
    exact ⟨rfl, rfl⟩
  | cons task tasks ih =>
    rw [lookupNames_cons]
    split
    . next hknown =>
      rw [isSome_lookup_eq] at hknown
      rw [unknownIds_cons_of_known hknown]
      apply ih
    . next hunknown =>
      rw [isSome_lookup_eq, Bool.not_eq_true] at hunknown
      rw [unknownIds_cons_of_unknown hunknown, List.map_cons]
      apply does_bind_of_onlyTells (onlyTells_emit _)
      intro told
      apply Does.bind_cons
      . apply Does.mapError
        apply Client.does_taskName
      . intro name later _
        exact ih ((task.id, name) :: known) later

/--
The entries for the tasks that have minutes.
-/
def entries (started : Moment) (tasks : List Task) : List Errand :=
  (tasks.filter fun task => 0 < task.spent).map fun task =>
    Errand.add settings task.id (task.minutes.getD 0) started

theorem spent_pos_iff {task : Task} : 0 < task.spent ↔ task.minutes.getD 0 ≠ 0 := by
  rw [Task.spent, Nat.pos_iff_ne_zero, Ne, Ne, ← UInt32.toNat_inj, UInt32.toNat_zero]

theorem filter_spent_cons_of_zero {task : Task} (h : task.minutes.getD 0 = 0) (tasks : List Task) :
    ((task :: tasks).filter fun task => 0 < task.spent) =
      tasks.filter fun task => 0 < task.spent := by
  rw [List.filter_cons_of_neg]
  simp [spent_pos_iff, h]

theorem filter_spent_cons_of_positive {task : Task} (h : task.minutes.getD 0 ≠ 0)
    (tasks : List Task) :
    ((task :: tasks).filter fun task => 0 < task.spent) =
      task :: tasks.filter fun task => 0 < task.spent := by
  rw [List.filter_cons_of_pos]
  simp [spent_pos_iff, h]

theorem entries_cons_of_zero {task : Task} (h : task.minutes.getD 0 = 0) (started : Moment)
    (tasks : List Task) :
    entries settings started (task :: tasks) = entries settings started tasks := by
  unfold entries
  rw [filter_spent_cons_of_zero h]

theorem entries_cons_of_positive {task : Task} (h : task.minutes.getD 0 ≠ 0) (started : Moment)
    (tasks : List Task) :
    entries settings started (task :: tasks) =
      Errand.add settings task.id (task.minutes.getD 0) started ::
        entries settings started tasks := by
  unfold entries
  rw [filter_spent_cons_of_positive h, List.map_cons]

section Members

variable {settings} {started : Moment} {tasks : List Task} {errand : Errand}

theorem exists_task_of_mem_entries (h : errand ∈ entries settings started tasks) :
    ∃ task ∈ tasks, 0 < task.spent ∧
      errand = Errand.add settings task.id (task.minutes.getD 0) started := by
  unfold entries at h
  rw [List.mem_map] at h
  obtain ⟨task, htask, rfl⟩ := h
  rw [List.mem_filter, decide_eq_true_iff] at htask
  exact ⟨task, htask.1, htask.2, rfl⟩

theorem logsWork_of_mem_entries (h : errand ∈ entries settings started tasks) :
    errand.command.logsWork = true := by
  obtain ⟨task, _, _, rfl⟩ := exists_task_of_mem_entries h
  apply Errand.logsWork_add

end Members

theorem does_write (started : Moment) (tasks : List Task) (trace : Trace) :
    Does tracker (write settings tracker started tasks) trace
      (entries settings started tasks) true := by
  induction tasks generalizing trace with
  | nil =>
    rw [write_nil, show entries settings started [] = [] from rfl, does_nil_iff]
    exact ⟨rfl, rfl⟩
  | cons task tasks ih =>
    rw [write_cons]
    split
    . next hzero =>
      rw [entries_cons_of_zero settings hzero]
      apply ih
    . next hpositive =>
      rw [entries_cons_of_positive settings hpositive]
      apply does_bind_of_onlyTells (onlyTells_emit _)
      intro told
      apply Does.bind_cons
      . apply Does.mapError
        apply Client.does_addWorklog
      . intro _ later _
        apply Does.bind_pure
        apply ih

theorem eq_length_of_write {started : Moment} {tasks : List Task} {trace later : Trace} {count : Nat}
    (h : (write settings tracker started tasks).after trace = (.ok count, later)) :
    count = (entries settings started tasks).length := by
  induction tasks generalizing trace later count with
  | nil =>
    rw [write_nil, after_pure] at h
    cases h
    rfl
  | cons task tasks ih =>
    rw [write_cons] at h
    split at h
    . next hzero =>
      rw [entries_cons_of_zero settings hzero]
      exact ih h
    . next hpositive =>
      rw [entries_cons_of_positive settings hpositive, List.length_cons]
      obtain ⟨_, _, _, h⟩ := ok_of_after_bind h
      obtain ⟨_, _, _, h⟩ := ok_of_after_bind h
      obtain ⟨rest, last, hrest, h⟩ := ok_of_after_bind h
      rw [after_pure, ih hrest] at h
      cases h
      omega

theorem extends_write (started : Moment) (tasks : List Task) :
    (write settings tracker started tasks).Extends := by
  induction tasks with
  | nil => apply extends_pure
  | cons task tasks ih =>
    rw [write_cons]
    split
    . exact ih
    . apply Extends.bind (extends_emit _)
      intro _
      apply Extends.bind
      . apply Extends.mapError
        apply Client.extends_addWorklog
      . intro _
        apply ih.bind
        intro _
        apply extends_pure

end Worklog

end Workday
