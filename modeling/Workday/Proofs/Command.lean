import Workday.Proofs.Duration
import Workday.Proofs.Places
import Workday.Proofs.TaskId
import Workday.Proofs.Timesheet

/-!
This module contains the commands that stand for tasks. Every token of such a command is read as
what it was written for, so that reading and preparing it change nothing.
-/

namespace Workday

/--
The tokens that stand for a task: its key, and its minutes unless it is a gap.
-/
def Task.tokens (task : Task) : List String :=
  task.id :: (task.minutes.map Duration.render).toList

/--
The command that stands for tasks.
-/
def commandOf (tasks : List Task) : List String :=
  tasks.flatMap Task.tokens

theorem TaskId.parse?_render (project : String) (minutes : UInt32) :
    TaskId.parse? project (Duration.render minutes) = none := by
  cases h : TaskId.parse? project (Duration.render minutes) with
  | none => rfl
  | some id =>
    have hnone := Duration.parse?_of_taskId h
    rw [Duration.parse?_render] at hnone
    contradiction

namespace Draft

variable {project : String} {draft : Draft} {task : Task}

theorem read_of_isFull {id : String} (h : TaskId.IsFull id) :
    draft.read project id = draft.start id := by
  rw [read, Token.classify_eq_task_iff.2 (h.parse?_eq project)]

theorem read_render (minutes : UInt32) :
    draft.read project (Duration.render minutes) = draft.attach (Duration.render minutes) minutes := by
  rw [read, (Token.classify_eq_duration_iff project).2 (Duration.parse?_render minutes)]

theorem foldl_read_tokens (h : TaskId.IsFull task.id) :
    task.tokens.foldl (read project) draft = { draft with tasks := task :: draft.tasks } := by
  obtain ⟨id, minutes⟩ := task
  rw [Task.tokens, List.foldl_cons, read_of_isFull h]
  cases minutes with
  | none => rfl
  | some minutes =>
    rw [Option.map_some, Option.toList_some, List.foldl_cons, read_render]
    rfl

theorem foldl_read_commandOf {tasks : List Task} (h : ∀ task ∈ tasks, TaskId.IsFull task.id) :
    (commandOf tasks).foldl (read project) draft =
      { draft with tasks := tasks.reverse ++ draft.tasks } := by
  induction tasks generalizing draft with
  | nil => rfl
  | cons task tasks ih =>
    rw [List.forall_mem_cons] at h
    rw [commandOf, List.flatMap_cons, List.foldl_append, foldl_read_tokens h.1, ← commandOf, ih h.2]
    simp

end Draft

theorem parseTasks_commandOf {tasks : List Task} (h : ∀ task ∈ tasks, TaskId.IsFull task.id)
    (project : String) : parseTasks project (commandOf tasks) = .ok tasks := by
  rw [parseTasks_eq_ok_iff, Draft.foldl_read_commandOf h]
  simp [Draft.empty]

section Parsed

variable {project : String} {tokens : List String} {tasks : List Task}

theorem exists_token_of_parseTasks (h : parseTasks project tokens = .ok tasks) {task : Task}
    (hmem : task ∈ tasks) : ∃ text ∈ tokens, TaskId.parse? project text = some task.id := by
  obtain ⟨entries, _, hentries, rfl⟩ := (inOrder_tasks_of_parseTasks h).2
  obtain ⟨⟨i, _⟩, hentry, rfl⟩ := List.mem_map.1 hmem
  obtain ⟨⟨text, htext, hid⟩, _⟩ := (hentries i _).1 hentry
  exact ⟨text, List.mem_of_getElem? htext, hid⟩

theorem isFull_of_parseTasks (hproject : TaskId.isProjectKey project.toList = true)
    (h : parseTasks project tokens = .ok tasks) : ∀ task ∈ tasks, TaskId.IsFull task.id := by
  intro task hmem
  obtain ⟨text, _, hid⟩ := exists_token_of_parseTasks h hmem
  exact TaskId.isFull_of_parse? hproject hid

/--
Tasks with full keys are read back from their command under any project. So is what any command was
read as, since the keys of a project are full.
-/
theorem parseTasks_commandOf_inverse :
    (∀ tasks : List Task, (∀ task ∈ tasks, TaskId.IsFull task.id) →
      ∀ project, parseTasks project (commandOf tasks) = .ok tasks) ∧
    ∀ (project : String) (tokens : List String) (tasks : List Task),
      TaskId.isProjectKey project.toList = true → parseTasks project tokens = .ok tasks →
        ∀ other, parseTasks other (commandOf tasks) = .ok tasks := by
  constructor
  . intro tasks h project
    exact parseTasks_commandOf h project
  . intro project tokens tasks hproject h other
    exact parseTasks_commandOf (isFull_of_parseTasks hproject h) other

theorem parseTasks_commandOf_zero_and_gap :
    (∀ task ∈ [(⟨"OPS-17", some 0⟩ : Task), ⟨"LP-622", none⟩], TaskId.IsFull task.id) ∧
      parseTasks "x" (commandOf [⟨"OPS-17", some 0⟩, ⟨"LP-622", none⟩]) =
        .ok [⟨"OPS-17", some 0⟩, ⟨"LP-622", none⟩] ∧
      TaskId.isProjectKey "LP".toList = true ∧
      parseTasks "LP" ["622", "007h30m"] = .ok [⟨"LP-622", some 450⟩] ∧
      parseTasks "x" (commandOf [⟨"LP-622", some 450⟩]) = .ok [⟨"LP-622", some 450⟩] := by
  have hfull : ∀ task ∈ [(⟨"OPS-17", some 0⟩ : Task), ⟨"LP-622", none⟩], TaskId.IsFull task.id := by
    rw [List.forall_mem_cons, List.forall_mem_singleton]
    exact ⟨⟨['O', 'P', 'S'], ['1', '7'], by decide⟩, ⟨['L', 'P'], ['6', '2', '2'], by decide⟩⟩
  have hproject : TaskId.isProjectKey "LP".toList = true := by decide
  have hparse : parseTasks "LP" ["622", "007h30m"] = .ok [⟨"LP-622", some 450⟩] := by
    decide +kernel
  refine ⟨hfull, ?_, hproject, hparse, ?_⟩
  . exact parseTasks_commandOf_inverse.1 _ hfull "x"
  . exact parseTasks_commandOf_inverse.2 "LP" _ _ hproject hparse "x"

end Parsed

namespace Timesheet

variable {project : String} {sloppy : Bool} {tokens : List String} {sheet : Timesheet}

theorem isFull_of_prepare (hfew : tokens.length < 2 ^ 32)
    (hproject : TaskId.isProjectKey project.toList = true)
    (h : prepare project sloppy tokens = .ok sheet) :
    ∀ task ∈ sheet.tasks, TaskId.IsFull task.id := by
  obtain ⟨tasks, hparse⟩ := exists_parseTasks_of_prepare h
  have hids := (represents_of_prepare hfew hparse h).map_id
  intro task hmem
  have hmem : task.id ∈ tasks.map Task.id := hids ▸ List.mem_map_of_mem hmem
  obtain ⟨other, hother, heq⟩ := List.mem_map.1 hmem
  rw [← heq]
  exact isFull_of_parseTasks hproject hparse other hother

-- A timesheet has no gap, so that its tasks leave nothing to be filled.
theorem ofTasks_of_prepare (hfew : tokens.length < 2 ^ 32)
    (h : prepare project sloppy tokens = .ok sheet) : ofTasks sloppy sheet.tasks = .ok sheet := by
  obtain ⟨tasks, hparse⟩ := exists_parseTasks_of_prepare h
  have hcount := gapCount_parseTasks_lt hparse hfew
  have htotal := sumGiven_parseTasks_lt hparse hfew
  obtain ⟨hgaps, hfull, rfl⟩ | ⟨hgaps, hfull, rfl, rfl⟩ | ⟨hgaps, hleft, rfl⟩ :=
    eq_of_prepare hfew hparse h
  . rw [ofTasks_eq hcount htotal, if_pos hgaps, if_pos hfull]
  . rw [ofTasks_eq hcount htotal, if_pos hgaps, if_neg hfull, if_pos rfl]
  . have hfilled := sumGiven_filled hgaps hleft
    rw [ofTasks_eq (by simp [gapCount_filled]) (by simp [hfilled]), if_pos (gapCount_filled tasks),
      if_pos hfilled]

/--
Preparing the command of a timesheet, under any project, gives that timesheet again, with the
imbalance that was accepted.
-/
theorem prepare_commandOf_tasks (project other : String) (sloppy : Bool) (tokens : List String)
    (sheet : Timesheet) (hfew : tokens.length < 2 ^ 32)
    (hproject : TaskId.isProjectKey project.toList = true)
    (h : prepare project sloppy tokens = .ok sheet) :
    prepare other sloppy (commandOf sheet.tasks) = .ok sheet := by
  have hparse := parseTasks_commandOf (isFull_of_prepare hfew hproject h) other
  rw [prepare_of_ok hparse, ofTasks_of_prepare hfew h]

theorem prepare_commandOf_short_day :
    ["622", "7h59m", "OPS-17", "623"].length < 2 ^ 32 ∧
      TaskId.isProjectKey "LP".toList = true ∧
      prepare "LP" true ["622", "7h59m", "OPS-17", "623"] =
        .ok ⟨[⟨"LP-622", some 479⟩, ⟨"OPS-17", some 1⟩, ⟨"LP-623", some 0⟩], none⟩ ∧
      prepare "x" true (commandOf [⟨"LP-622", some 479⟩, ⟨"OPS-17", some 1⟩, ⟨"LP-623", some 0⟩]) =
        .ok ⟨[⟨"LP-622", some 479⟩, ⟨"OPS-17", some 1⟩, ⟨"LP-623", some 0⟩], none⟩ := by
  have hfew : ["622", "7h59m", "OPS-17", "623"].length < 2 ^ 32 := by decide
  have hproject : TaskId.isProjectKey "LP".toList = true := by decide
  have hsheet : prepare "LP" true ["622", "7h59m", "OPS-17", "623"] =
      .ok ⟨[⟨"LP-622", some 479⟩, ⟨"OPS-17", some 1⟩, ⟨"LP-623", some 0⟩], none⟩ := by
    decide +kernel
  refine ⟨hfew, hproject, hsheet, ?_⟩
  exact prepare_commandOf_tasks "LP" "x" true _ _ hfew hproject hsheet

end Timesheet

end Workday
