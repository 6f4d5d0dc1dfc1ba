import Workday.Proofs.Places

/-!
This module contains what becomes of a command when rejected tokens are deleted from it. A rejected
token leaves the tasks of the draft as they are, so nothing that is read after it depends on it, and
a command can be put right by deleting what was rejected.
-/

namespace Workday

/--
The entries of a list at the places that are kept.
-/
def keepAt {α : Type} (keep : Nat → Bool) (xs : List α) : List α :=
  (xs.zipIdx.filter fun entry => keep entry.2).map Prod.fst

section KeepAt

variable {α β : Type} {keep : Nat → Bool} {xs : List α} {x : α}

theorem keepAt_concat_of_kept (h : keep xs.length = true) :
    keepAt keep (xs ++ [x]) = keepAt keep xs ++ [x] := by
  unfold keepAt
  simp [List.zipIdx_append, h]

theorem keepAt_concat_of_dropped (h : keep xs.length = false) :
    keepAt keep (xs ++ [x]) = keepAt keep xs := by
  unfold keepAt
  simp [List.zipIdx_append, h]

theorem keepAt_map (f : α → β) : keepAt keep (xs.map f) = (keepAt keep xs).map f := by
  unfold keepAt
  rw [List.zipIdx_map, List.filter_map, List.map_map, List.map_map]
  rfl

end KeepAt

namespace Draft

/--
A draft spares what is kept of steps if it has all the tasks that they make, and the rejections that
they meet at the places that are kept.
-/
structure Spares (keep : Nat → Bool) (steps : List Step) (draft : Draft) : Prop where
  tasks_eq : draft.tasks = (run steps).tasks
  rejections :
    InOrder (fun k rejection => RefusedAt steps k rejection ∧ keep k = true) draft.rejections.reverse

section Spares

variable {keep : Nat → Bool} {steps : List Step} {step : Step} {draft : Draft}

theorem refusedAt_and_kept_concat_iff (k : Nat) (rejection : Rejection) :
    RefusedAt (steps ++ [step]) k rejection ∧ keep k = true ↔
      (RefusedAt steps k rejection ∧ keep k = true) ∨
        k = steps.length ∧
          RefusedAt (steps ++ [step]) steps.length rejection ∧ keep steps.length = true := by
  rw [refusedAt_concat_iff, or_and_right]
  apply or_congr_right
  constructor
  . intro ⟨⟨hk, hrefused⟩, hkeep⟩
    exact ⟨hk, hrefused, hk ▸ hkeep⟩
  . intro ⟨hk, hrefused, hkeep⟩
    exact ⟨⟨hk, hrefused⟩, hk ▸ hkeep⟩

theorem spares_empty : Spares keep [] empty where
  tasks_eq := rfl
  rejections := by
    apply inOrder_nil_iff.2
    intro k rejection h
    exact absurd h.1.lt_length (Nat.not_lt_zero k)

theorem Spares.apply (h : Spares keep steps draft) (hkeep : keep steps.length = true) :
    Spares keep (steps ++ [step]) (draft.apply step) where
  tasks_eq := by
    rw [run_concat]
    exact tasks_apply_congr h.tasks_eq step
  rejections := by
    rw [rejections_apply, List.reverse_append, h.tasks_eq]
    cases hstep : step.rejection? (run steps).tasks with
    | none =>
      rw [Option.toList_none, List.reverse_nil, List.append_nil]
      apply h.rejections.keep refusedAt_and_kept_concat_iff
      intro rejection hrefused
      rw [refusedAt_concat_length_iff, hstep] at hrefused
      exact absurd hrefused.1 (by simp)
    | some rejection =>
      rw [Option.toList_some, List.reverse_singleton]
      apply h.rejections.extend (fun k other hother => hother.1.lt_length)
        refusedAt_and_kept_concat_iff
      intro other
      rw [refusedAt_concat_length_iff, hstep, Option.some.injEq, and_iff_left hkeep, eq_comm]

-- A step that is refused leaves the tasks as they are, so it can as well be left out.
theorem Spares.drop (h : Spares keep steps draft) (hkeep : keep steps.length = false)
    {rejection : Rejection} (hrefused : RefusedAt (steps ++ [step]) steps.length rejection) :
    Spares keep (steps ++ [step]) draft where
  tasks_eq := by
    rw [run_concat, tasks_apply_of_rejection (refusedAt_concat_length_iff.1 hrefused)]
    exact h.tasks_eq
  rejections := by
    apply h.rejections.keep refusedAt_and_kept_concat_iff
    intro other hother
    rw [hkeep] at hother
    exact absurd hother.2 (by decide)

theorem spares_run_keepAt
    (h : ∀ k < steps.length, keep k = false → ∃ rejection, RefusedAt steps k rejection) :
    Spares keep steps (run (keepAt keep steps)) := by
  induction steps using List.reverseRecOn with
  | nil => exact spares_empty
  | append_singleton steps step ih =>
    have hlast : steps.length < (steps ++ [step]).length := by simp
    have hspares : Spares keep steps (run (keepAt keep steps)) := by
      apply ih
      intro k hk hdropped
      obtain ⟨rejection, hrefused⟩ := h k (Nat.lt_trans hk hlast) hdropped
      obtain hrefused | ⟨heq, _⟩ := (refusedAt_concat_iff k rejection).1 hrefused
      . exact ⟨rejection, hrefused⟩
      . exact absurd heq (Nat.ne_of_lt hk)
    cases hkeep : keep steps.length with
    | true =>
      rw [keepAt_concat_of_kept hkeep, run_concat]
      exact hspares.apply hkeep
    | false =>
      obtain ⟨rejection, hrefused⟩ := h steps.length hlast hkeep
      rw [keepAt_concat_of_dropped hkeep]
      exact hspares.drop hkeep hrefused

end Spares

end Draft

open Draft

/--
The task of a place has the key that its token names and the minutes of the duration that was
accepted for it, one that belongs to it and is not rejected.
-/
def AcceptedAt (project : String) (tokens : List String) (i : Nat) (task : Task) : Prop :=
  TaskAt project tokens i task.id ∧ ∀ minutes, task.minutes = some minutes ↔
    ∃ k, DurationAt tokens k minutes ∧ BelongsTo project tokens k i ∧
      ∀ rejection, ¬RejectedAt project tokens k rejection

section Deletion

variable {project : String} {tokens : List String} {keep : Nat → Bool}

theorem acceptedAt_iff {i : Nat} {task : Task} :
    AcceptedAt project tokens i task ↔ BegunAt (tokens.map (Step.ofToken project)) i task := by
  simp only [AcceptedAt, BegunAt, getElem?_eq_start_iff, closesAt_iff_not_refusedAt, attachesAt_iff,
    isLatest_startsAt_iff, refusedAt_iff]

theorem exists_acceptedAt {i : Nat} {id : String} (h : TaskAt project tokens i id) :
    ∃ task, AcceptedAt project tokens i task := by
  simp only [acceptedAt_iff]
  exact exists_begunAt (startsAt_iff.2 ⟨id, h⟩)

theorem parseTasks_keepAt_cases
    (h : ∀ k, keep k = false → ∃ rejection, RejectedAt project tokens k rejection) :
    ∃ kept, InOrder (fun k rejection => RejectedAt project tokens k rejection ∧ keep k = true) kept ∧
      (kept ≠ [] → parseTasks project (keepAt keep tokens) = .error kept) ∧
      (kept = [] → ∃ tasks, parseTasks project (keepAt keep tokens) = .ok tasks ∧
        InOrder (AcceptedAt project tokens) tasks) := by
  have hspares : Spares keep (tokens.map (Step.ofToken project))
      (run (keepAt keep (tokens.map (Step.ofToken project)))) := by
    apply spares_run_keepAt
    intro k _ hdropped
    simp only [refusedAt_iff]
    exact h k hdropped
  have hrejections := hspares.rejections
  rw [keepAt_map] at hspares hrejections
  simp only [refusedAt_iff] at hrejections
  rw [parseTasks_eq_finish_run]
  refine ⟨_, hrejections, ?_, ?_⟩
  . intro hsome
    exact finish_eq_error_iff.2 ⟨mt List.reverse_eq_nil_iff.2 hsome, rfl⟩
  . intro hnone
    refine ⟨_, finish_eq_ok_iff.2 ⟨List.reverse_eq_nil_iff.1 hnone, rfl⟩, ?_⟩
    rw [hspares.tasks_eq]
    apply (reflects_run (tokens.map (Step.ofToken project))).tasks.congr
    intro i task
    exact acceptedAt_iff

end Deletion

/--
Deleting rejected tokens from a command leaves one whose rejections are those of the rejected tokens
that were kept, in their order. Deleting all of them leaves a command that is read, with one task for
each token that names one and the minutes that were accepted for it.
-/
theorem parseTasks_keepAt_of_rejected {project : String} {tokens : List String}
    {rejections : List Rejection} (h : parseTasks project tokens = .error rejections) :
    InOrder (RejectedAt project tokens) rejections ∧
    (∀ keep : Nat → Bool,
      (∀ k, keep k = false → ∃ rejection, RejectedAt project tokens k rejection) →
      ∃ kept,
        InOrder (fun k rejection => RejectedAt project tokens k rejection ∧ keep k = true) kept ∧
        (kept ≠ [] → parseTasks project (keepAt keep tokens) = .error kept) ∧
        (kept = [] → ∃ tasks, parseTasks project (keepAt keep tokens) = .ok tasks)) ∧
    ∀ keep : Nat → Bool,
      (∀ k, keep k = false ↔ ∃ rejection, RejectedAt project tokens k rejection) →
      ∃ tasks, parseTasks project (keepAt keep tokens) = .ok tasks ∧
        (∀ i id, TaskAt project tokens i id → ∃ task, AcceptedAt project tokens i task) ∧
        InOrder (AcceptedAt project tokens) tasks := by
  refine ⟨(inOrder_rejections_of_parseTasks h).2, ?_, ?_⟩
  . intro keep hdropped
    obtain ⟨kept, hkept, hsome, hnone⟩ := parseTasks_keepAt_cases hdropped
    refine ⟨kept, hkept, hsome, ?_⟩
    intro hnil
    obtain ⟨tasks, hok, _⟩ := hnone hnil
    exact ⟨tasks, hok⟩
  . intro keep hdropped
    obtain ⟨kept, hkept, _, hnone⟩ := parseTasks_keepAt_cases fun k => (hdropped k).1
    have hnil : kept = [] := by
      apply hkept.unique
      apply inOrder_nil_iff.2
      intro k rejection ⟨hrejected, hkeep⟩
      rw [(hdropped k).2 ⟨rejection, hrejected⟩] at hkeep
      contradiction
    obtain ⟨tasks, hok, htasks⟩ := hnone hnil
    exact ⟨tasks, hok, fun i id => exists_acceptedAt, htasks⟩

theorem parseTasks_keepAt_of_two_dropped :
    let tokens := ["3h", "622", "30m", "x", "1h", "OPS-17"]
    let keep : Nat → Bool := fun k => k != 0 && k != 3
    parseTasks "LP" tokens = .error
        [⟨"3h", .timeAsFirstArgument⟩, ⟨"x", .unparseable⟩, ⟨"1h", .timeWithoutTask⟩] ∧
      (∀ k, keep k = false → ∃ rejection, RejectedAt "LP" tokens k rejection) ∧
      keepAt keep tokens = ["622", "30m", "1h", "OPS-17"] ∧
      parseTasks "LP" (keepAt keep tokens) = .error [⟨"1h", .timeWithoutTask⟩] ∧
      InOrder (fun k rejection => RejectedAt "LP" tokens k rejection ∧ keep k = true)
        [⟨"1h", .timeWithoutTask⟩] := by
  intro tokens keep
  have hall : parseTasks "LP" tokens = .error
      [⟨"3h", .timeAsFirstArgument⟩, ⟨"x", .unparseable⟩, ⟨"1h", .timeWithoutTask⟩] := by
    decide +kernel
  have hleft : parseTasks "LP" (keepAt keep tokens) = .error [⟨"1h", .timeWithoutTask⟩] := by
    decide +kernel
  have hdropped : ∀ k, keep k = false → ∃ rejection, RejectedAt "LP" tokens k rejection := by
    intro k hk
    have hplace : k = 0 ∨ k = 3 := by simpa [keep, Decidable.imp_iff_not_or] using hk
    obtain rfl | rfl := hplace
    . refine ⟨⟨"3h", .timeAsFirstArgument⟩, rfl, ⟨180, "3h", rfl, by decide +kernel⟩, ?_⟩
      intro i hi
      contradiction
    . exact ⟨⟨"x", .unparseable⟩, rfl, by decide +kernel, by decide +kernel⟩
  obtain ⟨kept, hkept, hsome, hnone⟩ := (parseTasks_keepAt_of_rejected hall).2.1 keep hdropped
  by_cases hnil : kept = []
  . obtain ⟨tasks, hok⟩ := hnone hnil
    rw [hleft] at hok
    contradiction
  . have herror := hsome hnil
    rw [hleft] at herror
    rw [← Except.error.inj herror] at hkept
    exact ⟨hall, hdropped, rfl, hleft, hkept⟩

end Workday
