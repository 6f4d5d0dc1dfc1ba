import Workday.Proofs.Draft.Calls
import Workday.Proofs.Token

/-!
This module contains what a command means place by place. A token is a task, a duration or unknown
on its own, and what becomes of it depends on the tokens between it and the latest task before it.
-/

namespace Workday

open Draft

theorem Token.classify_eq_task_iff {project text id : String} :
    Token.classify project text = .task id ↔ TaskId.parse? project text = some id := by
  unfold Token.classify
  cases TaskId.parse? project text with
  | some other => simp
  | none => cases Duration.parse? text <;> simp

theorem Token.classify_eq_duration_iff (project : String) {text : String} {minutes : UInt32} :
    Token.classify project text = .duration minutes ↔ Duration.parse? text = some minutes := by
  unfold Token.classify
  cases htask : TaskId.parse? project text with
  | some id => simp [Duration.parse?_of_taskId htask]
  | none => cases Duration.parse? text <;> simp

theorem Token.classify_eq_unknown_iff {project text : String} :
    Token.classify project text = .unknown ↔
      TaskId.parse? project text = none ∧ Duration.parse? text = none := by
  unfold Token.classify
  cases TaskId.parse? project text with
  | some id => simp
  | none => cases Duration.parse? text <;> simp

namespace Draft.Step

def ofToken (project text : String) : Step :=
  match Token.classify project text with
  | .task id => .start id
  | .duration minutes => .attach text minutes
  | .unknown => .reject text .unparseable

variable {project text : String}

theorem ofToken_eq_start_iff {id : String} :
    ofToken project text = .start id ↔ TaskId.parse? project text = some id := by
  rw [← Token.classify_eq_task_iff, ofToken]
  cases Token.classify project text <;> simp

theorem ofToken_eq_attach_iff {token : String} {minutes : UInt32} :
    ofToken project text = .attach token minutes ↔
      text = token ∧ Duration.parse? text = some minutes := by
  rw [← Token.classify_eq_duration_iff project, ofToken]
  cases Token.classify project text <;> simp

theorem ofToken_eq_reject_iff {token : String} {reason : Reason} :
    ofToken project text = .reject token reason ↔
      text = token ∧ reason = .unparseable ∧
        TaskId.parse? project text = none ∧ Duration.parse? text = none := by
  rw [← Token.classify_eq_unknown_iff, ofToken]
  cases Token.classify project text <;> simp [eq_comm]

end Draft.Step

theorem Draft.foldl_read_eq_run (project : String) (tokens : List String) :
    tokens.foldl (Draft.read project) empty = run (tokens.map (Step.ofToken project)) := by
  have hread : Draft.read project = fun draft text => draft.apply (Step.ofToken project text) := by
    funext draft text
    unfold Draft.read Step.ofToken
    cases Token.classify project text <;> rfl
  rw [run, List.foldl_map, hread]

section Specification

variable (project : String) (tokens : List String)

def TaskAt (i : Nat) (id : String) : Prop :=
  ∃ text, tokens[i]? = some text ∧ TaskId.parse? project text = some id

def DurationAt (k : Nat) (minutes : UInt32) : Prop :=
  ∃ text, tokens[k]? = some text ∧ Duration.parse? text = some minutes

/--
The task that the place `k` belongs to begins at `i`, the latest place of a task before it.
-/
def BelongsTo (k i : Nat) : Prop := IsLatest (fun j => ∃ id, TaskAt project tokens j id) i k

/--
The places at which a command is rejected. A token may be neither a task nor a duration, and a
duration may have no task before it, or another duration between its task and itself.
-/
def RejectedAt (k : Nat) (rejection : Rejection) : Prop :=
  tokens[k]? = some rejection.token ∧
    match rejection.reason with
    | .unparseable =>
      TaskId.parse? project rejection.token = none ∧ Duration.parse? rejection.token = none
    | .timeAsFirstArgument =>
      (∃ minutes, DurationAt tokens k minutes) ∧ ∀ i < k, ∀ id, ¬TaskAt project tokens i id
    | .timeWithoutTask =>
      (∃ minutes, DurationAt tokens k minutes) ∧
        ∃ i j earlier, BelongsTo project tokens k i ∧ i < j ∧ j < k ∧ DurationAt tokens j earlier

/--
The task of a place has the key that its token names and the minutes of the duration that comes
before the next task, or no minutes if none does.
-/
def EntryAt (i : Nat) (task : Task) : Prop :=
  TaskAt project tokens i task.id ∧
    ∀ minutes, task.minutes = some minutes ↔
      ∃ k, DurationAt tokens k minutes ∧ BelongsTo project tokens k i

end Specification

section Places

variable {project : String} {tokens : List String}

theorem getElem?_ofToken_eq_some_iff {k : Nat} {step : Step} :
    (tokens.map (Step.ofToken project))[k]? = some step ↔
      ∃ text, tokens[k]? = some text ∧ Step.ofToken project text = step := by
  rw [List.getElem?_map, Option.map_eq_some_iff]

theorem getElem?_eq_start_iff {i : Nat} {id : String} :
    (tokens.map (Step.ofToken project))[i]? = some (.start id) ↔ TaskAt project tokens i id := by
  simp only [getElem?_ofToken_eq_some_iff, Step.ofToken_eq_start_iff, TaskAt]

theorem getElem?_eq_attach_iff {k : Nat} {token : String} {minutes : UInt32} :
    (tokens.map (Step.ofToken project))[k]? = some (.attach token minutes) ↔
      tokens[k]? = some token ∧ DurationAt tokens k minutes := by
  rw [getElem?_ofToken_eq_some_iff, DurationAt]
  simp only [Step.ofToken_eq_attach_iff]
  constructor
  . intro ⟨text, htext, heq, hminutes⟩
    exact ⟨heq ▸ htext, text, htext, hminutes⟩
  . intro ⟨htoken, text, htext, hminutes⟩
    have heq : text = token := by rwa [htext, Option.some.injEq] at htoken
    exact ⟨text, htext, heq, hminutes⟩

theorem startsAt_iff {i : Nat} :
    StartsAt (tokens.map (Step.ofToken project)) i ↔ ∃ id, TaskAt project tokens i id := by
  simp only [StartsAt, getElem?_eq_start_iff]

theorem attachesAt_iff {k : Nat} {minutes : UInt32} :
    AttachesAt (tokens.map (Step.ofToken project)) k minutes ↔ DurationAt tokens k minutes := by
  simp only [AttachesAt, getElem?_eq_attach_iff, exists_and_right, and_iff_right_iff_imp]
  intro hduration
  obtain ⟨text, htext, _⟩ := hduration
  exact ⟨text, htext⟩

theorem isLatest_startsAt_iff {i k : Nat} :
    IsLatest (StartsAt (tokens.map (Step.ofToken project))) i k ↔ BelongsTo project tokens k i := by
  simp only [BelongsTo, IsLatest, startsAt_iff]

theorem getElem?_eq_reject_iff {k : Nat} {token : String} {reason : Reason} :
    (tokens.map (Step.ofToken project))[k]? = some (.reject token reason) ↔
      tokens[k]? = some token ∧ reason = .unparseable ∧
        TaskId.parse? project token = none ∧ Duration.parse? token = none := by
  rw [getElem?_ofToken_eq_some_iff]
  simp only [Step.ofToken_eq_reject_iff]
  constructor
  . intro ⟨text, htext, heq, hunknown⟩
    exact heq ▸ ⟨htext, hunknown⟩
  . intro ⟨htoken, hunknown⟩
    exact ⟨token, htoken, rfl, hunknown⟩

theorem refusedAt_iff {k : Nat} {rejection : Rejection} :
    RefusedAt (tokens.map (Step.ofToken project)) k rejection ↔
      RejectedAt project tokens k rejection := by
  obtain ⟨token, reason⟩ := rejection
  unfold RefusedAt RejectedAt
  simp only [getElem?_eq_reject_iff, getElem?_eq_attach_iff, isLatest_startsAt_iff, attachesAt_iff,
    startsAt_iff, not_exists, exists_and_left]
  cases reason <;> simp [and_assoc]

theorem begunAt_iff (h : ∀ k rejection, ¬RejectedAt project tokens k rejection) {i : Nat}
    {task : Task} :
    BegunAt (tokens.map (Step.ofToken project)) i task ↔ EntryAt project tokens i task := by
  simp only [BegunAt, EntryAt, getElem?_eq_start_iff, closesAt_iff_not_refusedAt, attachesAt_iff,
    isLatest_startsAt_iff, refusedAt_iff, h, not_false_eq_true, implies_true, and_true]

theorem parseTasks_eq_finish_run :
    parseTasks project tokens = (run (tokens.map (Step.ofToken project))).finish := by
  rw [parseTasks, foldl_read_eq_run]

theorem inOrder_rejections_of_parseTasks {rejections : List Rejection}
    (h : parseTasks project tokens = .error rejections) :
    rejections ≠ [] ∧ InOrder (RejectedAt project tokens) rejections := by
  rw [parseTasks_eq_finish_run, finish_eq_error_iff] at h
  obtain ⟨hsome, rfl⟩ := h
  refine ⟨mt List.reverse_eq_nil_iff.1 hsome, ?_⟩
  apply (reflects_run (tokens.map (Step.ofToken project))).rejections.congr
  intro k rejection
  exact refusedAt_iff.symm

theorem inOrder_tasks_of_parseTasks {tasks : List Task}
    (h : parseTasks project tokens = .ok tasks) :
    (∀ k rejection, ¬RejectedAt project tokens k rejection) ∧
      InOrder (EntryAt project tokens) tasks := by
  have hreflects := reflects_run (tokens.map (Step.ofToken project))
  rw [parseTasks_eq_finish_run, finish_eq_ok_iff] at h
  obtain ⟨hnone, rfl⟩ := h
  have hrejections := hreflects.rejections
  rw [hnone, List.reverse_nil, inOrder_nil_iff] at hrejections
  simp only [refusedAt_iff] at hrejections
  refine ⟨hrejections, ?_⟩
  apply hreflects.tasks.congr
  intro i task
  exact (begunAt_iff hrejections).symm

theorem exists_entryAt (h : ∀ k rejection, ¬RejectedAt project tokens k rejection) {i : Nat}
    {id : String} (hid : TaskAt project tokens i id) : ∃ task, EntryAt project tokens i task := by
  simp only [← begunAt_iff h]
  exact exists_begunAt (startsAt_iff.2 ⟨id, hid⟩)

/--
Reading a command comes out as its places say. It is rejected if one of them is, with all of the
rejected ones in their order. Otherwise it has one task for each token that names one, in their
order.
-/
theorem parseTasks_iff_inOrder (project : String) (tokens : List String) :
    (∀ rejections, parseTasks project tokens = .error rejections ↔
      rejections ≠ [] ∧ InOrder (RejectedAt project tokens) rejections) ∧
    ∀ tasks, parseTasks project tokens = .ok tasks ↔
      (∀ k rejection, ¬RejectedAt project tokens k rejection) ∧
      (∀ i id, TaskAt project tokens i id → ∃ task, EntryAt project tokens i task) ∧
      InOrder (EntryAt project tokens) tasks := by
  constructor
  . intro rejections
    refine ⟨inOrder_rejections_of_parseTasks, ?_⟩
    intro ⟨hsome, hrejections⟩
    cases h : parseTasks project tokens with
    | error others => rw [(inOrder_rejections_of_parseTasks h).2.unique hrejections]
    | ok tasks =>
      have hnone := inOrder_nil_iff.2 (inOrder_tasks_of_parseTasks h).1
      exact absurd (hrejections.unique hnone) hsome
  . intro tasks
    constructor
    . intro h
      obtain ⟨hnone, htasks⟩ := inOrder_tasks_of_parseTasks h
      exact ⟨hnone, fun i id hid => exists_entryAt hnone hid, htasks⟩
    . intro ⟨hnone, _, htasks⟩
      cases h : parseTasks project tokens with
      | error rejections =>
        obtain ⟨hsome, hrejections⟩ := inOrder_rejections_of_parseTasks h
        exact absurd (hrejections.unique (inOrder_nil_iff.2 hnone)) hsome
      | ok others => rw [(inOrder_tasks_of_parseTasks h).2.unique htasks]

-- Minutes that do not fit in 32 bits are no duration.
example : parseTasks "LP" ["3h", "622", "30m", "71582789h", "1h", "OPS-17"] =
    .error [⟨"3h", .timeAsFirstArgument⟩, ⟨"71582789h", .unparseable⟩, ⟨"1h", .timeWithoutTask⟩] := by
  decide +kernel

end Places

end Workday
