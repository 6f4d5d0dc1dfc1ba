import Workday.Proofs.Draft

/-!
This module contains what a sequence of calls on a draft comes to. A call either begins a task, or
gives the latest task its minutes, or leaves the tasks as they are and adds one rejection. Whether
minutes are refused depends on the latest task, and so on the calls since it was begun.
-/

namespace Workday.Draft

def refusal? (tasks : List Task) : Option Reason :=
  tasks.head?.elim (some .timeAsFirstArgument) fun task =>
    if task.isGap then none else some .timeWithoutTask

/--
The rejection that a step adds to a draft with the given tasks, if it adds one.
-/
def Step.rejection? (tasks : List Task) : Step → Option Rejection
  | .start _ => none
  | .attach token _ => (refusal? tasks).map (⟨token, ·⟩)
  | .reject token reason => some ⟨token, reason⟩

section Step

variable {draft draft' : Draft} {step : Step} {rejection : Rejection}

theorem attach_eq (draft : Draft) (token : String) (minutes : UInt32) :
    draft.attach token minutes =
      (refusal? draft.tasks).elim
        { draft with tasks := draft.tasks.modifyHead fun task => { task with minutes := some minutes } }
        (draft.reject token) := by
  obtain ⟨tasks, rejections⟩ := draft
  cases tasks with
  | nil => rfl
  | cons task earlier =>
    obtain ⟨id, given⟩ := task
    cases given <;> rfl

theorem rejections_apply (draft : Draft) (step : Step) :
    (draft.apply step).rejections = (step.rejection? draft.tasks).toList ++ draft.rejections := by
  cases step with
  | start id => rfl
  | attach token minutes =>
    rw [apply, attach_eq, Step.rejection?]
    cases refusal? draft.tasks <;> rfl
  | reject token reason => rfl

theorem tasks_apply_of_rejection (h : step.rejection? draft.tasks = some rejection) :
    (draft.apply step).tasks = draft.tasks := by
  cases step with
  | start id => contradiction
  | attach token minutes =>
    obtain ⟨reason, hreason, _⟩ := Option.map_eq_some_iff.1 h
    rw [apply, attach_eq, hreason]
    rfl
  | reject token reason => rfl

theorem tasks_apply_congr (h : draft.tasks = draft'.tasks) (step : Step) :
    (draft.apply step).tasks = (draft'.apply step).tasks := by
  cases step with
  | start id => exact congrArg (⟨id, none⟩ :: ·) h
  | attach token minutes =>
    rw [apply, apply, attach_eq, attach_eq, ← h]
    cases refusal? draft.tasks with
    | none => rfl
    | some reason => exact h
  | reject token reason => exact h

end Step

section Rejections

variable {steps : List Step} {step : Step} {k : Nat} {minutes : UInt32} {rejection : Rejection}

theorem refusedAt_attach_iff_refusal? {token : String} :
    RefusedAt (steps ++ [.attach token minutes]) steps.length rejection ↔
      (refusal? (run steps).tasks).map (⟨token, ·⟩) = some rejection := by
  have hreflects := reflects_run steps
  cases htasks : (run steps).tasks with
  | nil => rw [hreflects.refusedAt_first htasks, eq_comm, ← Option.some.injEq]; rfl
  | cons task earlier =>
    obtain ⟨id, given⟩ := task
    cases given with
    | some given => rw [hreflects.refusedAt_again htasks, eq_comm, ← Option.some.injEq]; rfl
    | none => exact iff_of_false (hreflects.not_refusedAt htasks rejection) (by simp [refusal?])

theorem refusedAt_concat_length_iff :
    RefusedAt (steps ++ [step]) steps.length rejection ↔
      step.rejection? (run steps).tasks = some rejection := by
  cases step with
  | start id => simp [RefusedAt, Step.rejection?]
  | attach token minutes => exact refusedAt_attach_iff_refusal?
  | reject token reason =>
    obtain ⟨other, why⟩ := rejection
    simp [RefusedAt, Step.rejection?]

theorem refusedAt_iff_of_getElem? (h : steps[k]? = some step) :
    RefusedAt steps k rejection ↔ step.rejection? (run (steps.take k)).tasks = some rejection := by
  obtain ⟨hlt, hstep⟩ := List.getElem?_eq_some_iff.1 h
  have htake : steps.take k ++ [step] = steps.take (k + 1) := by
    rw [← hstep, List.take_append_getElem hlt]
  have hsame : ∀ j ≤ k, steps[j]? = (steps.take k ++ [step])[j]? := by
    intro j hj
    rw [htake, List.getElem?_take_of_lt (Nat.lt_succ_of_le hj)]
  have hlength : (steps.take k).length = k := List.length_take_of_le (Nat.le_of_lt hlt)
  rw [← refusedAt_concat_length_iff, hlength]
  constructor
  . intro hrefused
    exact hrefused.congr hsame
  . intro hrefused
    exact hrefused.congr fun j hj => (hsame j hj).symm

theorem run_take_succ (h : steps[k]? = some step) :
    run (steps.take (k + 1)) = (run (steps.take k)).apply step := by
  obtain ⟨hlt, hstep⟩ := List.getElem?_eq_some_iff.1 h
  rw [← hstep, ← List.take_append_getElem hlt, run_concat]

-- Rejections are put in front, so the ones there are stay behind the later ones.
theorem rejections_run_append (steps more : List Step) :
    ∃ added, (run (steps ++ more)).rejections = added ++ (run steps).rejections := by
  induction more using List.reverseRecOn with
  | nil => exact ⟨[], by rw [List.append_nil, List.nil_append]⟩
  | append_singleton more step ih =>
    obtain ⟨added, hadded⟩ := ih
    rw [← List.append_assoc, run_concat, rejections_apply, hadded, ← List.append_assoc]
    exact ⟨_, rfl⟩

end Rejections

/--
The call at `k` is accepted if the draft records no rejection for it.
-/
def IsAccepted (steps : List Step) (k : Nat) : Prop :=
  (run (steps.take (k + 1))).rejections = (run (steps.take k)).rejections

/--
The task that is begun at `i`, with the minutes that are accepted for it.
-/
def HoldsAt (steps : List Step) (i : Nat) (task : Task) : Prop :=
  steps[i]? = some (.start task.id) ∧ ∀ minutes, task.minutes = some minutes ↔
    ∃ k, AttachesAt steps k minutes ∧ IsLatest (StartsAt steps) i k ∧ IsAccepted steps k

/--
A call fails because it rejects a token, or because it brings minutes that are not accepted.
-/
def FailsAt (steps : List Step) (k : Nat) (rejection : Rejection) : Prop :=
  steps[k]? = some (.reject rejection.token rejection.reason) ∨
  (∃ minutes, steps[k]? = some (.attach rejection.token minutes)) ∧ ¬IsAccepted steps k ∧
    ((rejection.reason = .timeAsFirstArgument ∧ ¬∃ i < k, StartsAt steps i) ∨
      (rejection.reason = .timeWithoutTask ∧ ∃ i < k, StartsAt steps i))

section Acceptance

variable {steps : List Step} {step : Step} {i k : Nat} {minutes : UInt32} {rejection : Rejection}

theorem isAccepted_iff (h : steps[k]? = some step) :
    IsAccepted steps k ↔ ∀ rejection, ¬RefusedAt steps k rejection := by
  simp only [refusedAt_iff_of_getElem? h, ← Option.eq_none_iff_forall_ne_some]
  rw [IsAccepted, run_take_succ h, rejections_apply, List.append_left_eq_self,
    Option.toList_eq_nil_iff]

theorem not_refusedAt_iff_exists_closesAt (h : AttachesAt steps k minutes) :
    (∀ rejection, ¬RefusedAt steps k rejection) ↔ ∃ i, ClosesAt steps i k minutes := by
  obtain ⟨token, hstep⟩ := h
  constructor
  . intro hnone
    have hstart : ∃ i < k, StartsAt steps i := by
      by_contra hno
      push Not at hno
      exact hnone ⟨token, .timeAsFirstArgument⟩ (.inr ⟨⟨minutes, hstep⟩, .inl ⟨rfl, hno⟩⟩)
    obtain ⟨i, hi, hstarts⟩ := hstart
    obtain ⟨latest, hlatest⟩ := exists_isLatest hi hstarts
    refine ⟨latest, ⟨token, hstep⟩, hlatest, ?_⟩
    intro j hlj hjk earlier hj
    exact hnone ⟨token, .timeWithoutTask⟩
      (.inr ⟨⟨minutes, hstep⟩, .inr ⟨rfl, latest, j, earlier, hlatest, hlj, hjk, hj⟩⟩)
  . intro ⟨i, _, hlatest, hfirst⟩ rejection hrefused
    obtain hreject | ⟨_, ⟨_, hno⟩ | ⟨_, i', j, earlier, hlatest', hij, hjk, hj⟩⟩ := hrefused
    . rw [hstep] at hreject
      simp at hreject
    . exact hno i hlatest.1 hlatest.2.1
    . rw [hlatest'.unique hlatest] at hij
      exact hfirst j hij hjk earlier hj

theorem closesAt_iff_not_refusedAt :
    ClosesAt steps i k minutes ↔ AttachesAt steps k minutes ∧ IsLatest (StartsAt steps) i k ∧
      ∀ rejection, ¬RefusedAt steps k rejection := by
  constructor
  . intro h
    exact ⟨h.1, h.2.1, (not_refusedAt_iff_exists_closesAt h.1).2 ⟨i, h⟩⟩
  . intro ⟨hattach, hlatest, hnone⟩
    obtain ⟨i', hcloses⟩ := (not_refusedAt_iff_exists_closesAt hattach).1 hnone
    rw [hlatest.unique hcloses.2.1]
    exact hcloses

theorem AttachesAt.isAccepted_iff (h : AttachesAt steps k minutes) :
    IsAccepted steps k ↔ ∃ i, IsLatest (StartsAt steps) i k ∧
      ∀ j, i < j → j < k → ∀ earlier, ¬AttachesAt steps j earlier := by
  obtain ⟨token, hstep⟩ := h
  rw [Draft.isAccepted_iff hstep, not_refusedAt_iff_exists_closesAt ⟨token, hstep⟩]
  simp only [ClosesAt, and_iff_right (show AttachesAt steps k minutes from ⟨token, hstep⟩)]

theorem holdsAt_iff {task : Task} : HoldsAt steps i task ↔ BegunAt steps i task := by
  have hcloses : ∀ k minutes,
      AttachesAt steps k minutes ∧ IsLatest (StartsAt steps) i k ∧ IsAccepted steps k ↔
        ClosesAt steps i k minutes := by
    intro k minutes
    rw [closesAt_iff_not_refusedAt]
    apply and_congr_right
    intro ⟨token, hstep⟩
    rw [Draft.isAccepted_iff hstep]
  simp only [HoldsAt, BegunAt, hcloses]

theorem RefusedAt.failsAt (h : RefusedAt steps k rejection) : FailsAt steps k rejection := by
  have hcases := h
  obtain hreject | ⟨⟨minutes, hstep⟩, hreason⟩ := hcases
  . exact .inl hreject
  . have hnot : ¬IsAccepted steps k := by
      rw [Draft.isAccepted_iff hstep]
      intro hnone
      exact hnone rejection h
    refine .inr ⟨⟨minutes, hstep⟩, hnot, ?_⟩
    obtain ⟨hfirst, hno⟩ | ⟨hagain, i, _, _, hlatest, _⟩ := hreason
    . exact .inl ⟨hfirst, fun ⟨i, hi, hstarts⟩ => hno i hi hstarts⟩
    . exact .inr ⟨hagain, i, hlatest.1, hlatest.2.1⟩

theorem failsAt_iff : FailsAt steps k rejection ↔ RefusedAt steps k rejection := by
  constructor
  . intro h
    obtain hreject | ⟨⟨minutes, hstep⟩, hnot, ⟨hfirst, hno⟩ | ⟨hagain, i, hi, hstarts⟩⟩ := h
    . exact .inl hreject
    . refine .inr ⟨⟨minutes, hstep⟩, .inl ⟨hfirst, ?_⟩⟩
      intro i hi hstarts
      exact hno ⟨i, hi, hstarts⟩
    . obtain ⟨latest, hlatest⟩ := exists_isLatest hi hstarts
      rw [AttachesAt.isAccepted_iff ⟨_, hstep⟩] at hnot
      push Not at hnot
      obtain ⟨j, hlj, hjk, earlier, hj⟩ := hnot latest hlatest
      exact .inr ⟨⟨minutes, hstep⟩, .inr ⟨hagain, latest, j, earlier, hlatest, hlj, hjk, hj⟩⟩
  . intro h
    exact h.failsAt

theorem forall_not_refusedAt_iff :
    (∀ k rejection, ¬RefusedAt steps k rejection) ↔
      (∀ (k : Nat) (token : String) (reason : Reason), steps[k]? ≠ some (.reject token reason)) ∧
        ∀ k minutes, AttachesAt steps k minutes → IsAccepted steps k := by
  constructor
  . intro h
    constructor
    . intro k token reason hreject
      exact h k ⟨token, reason⟩ (.inl hreject)
    . intro k minutes ⟨token, hstep⟩
      rw [Draft.isAccepted_iff hstep]
      exact h k
  . intro ⟨hreject, haccepted⟩ k rejection hrefused
    obtain hstep | ⟨⟨minutes, hstep⟩, hnot, _⟩ := hrefused.failsAt
    . exact hreject k _ _ hstep
    . exact hnot (haccepted k minutes ⟨_, hstep⟩)

end Acceptance

section Finish

variable {steps : List Step}

theorem exists_finish_run_eq_ok_iff :
    (∃ tasks, (run steps).finish = .ok tasks) ↔ ∀ k rejection, ¬RefusedAt steps k rejection := by
  have hrejections := (reflects_run steps).rejections
  simp only [finish_eq_ok_iff, exists_eq_right']
  rw [← List.reverse_eq_nil_iff]
  constructor
  . intro hnone
    rw [hnone] at hrejections
    exact inOrder_nil_iff.1 hrejections
  . intro hnone
    exact hrejections.unique (inOrder_nil_iff.2 hnone)

end Finish

/--
A call that attaches minutes is accepted exactly if a task was begun before it and no minutes were
attached since the latest one. If nothing is rejected and all minutes are accepted, the tasks come
out in the order of the calls that began them, each with the minutes accepted for it. Otherwise all
calls that fail come out, in their order, and later calls only add to them.
-/
theorem finish_run_outcomes (steps : List Step) :
    (∀ k minutes, AttachesAt steps k minutes →
      (IsAccepted steps k ↔ ∃ i, IsLatest (StartsAt steps) i k ∧
        ∀ j, i < j → j < k → ∀ earlier, ¬AttachesAt steps j earlier)) ∧
    ((∃ tasks, (run steps).finish = .ok tasks) ↔
      (∀ (k : Nat) (token : String) (reason : Reason), steps[k]? ≠ some (.reject token reason)) ∧
        ∀ k minutes, AttachesAt steps k minutes → IsAccepted steps k) ∧
    (∀ tasks, (run steps).finish = .ok tasks →
      (∀ i id, steps[i]? = some (.start id) → ∃ task, HoldsAt steps i task) ∧
        InOrder (HoldsAt steps) tasks) ∧
    (∀ rejections, (run steps).finish = .error rejections →
      rejections ≠ [] ∧ InOrder (FailsAt steps) rejections) ∧
    ∀ rejections more, (run steps).finish = .error rejections →
      ∃ rejections', (run (steps ++ more)).finish = .error rejections' ∧
        rejections <+: rejections' := by
  have hreflects := reflects_run steps
  refine ⟨?_, ?_, ?_, ?_, ?_⟩
  . intro k minutes hattach
    exact hattach.isAccepted_iff
  . rw [exists_finish_run_eq_ok_iff, forall_not_refusedAt_iff]
  . intro tasks hfinish
    obtain ⟨_, rfl⟩ := finish_eq_ok_iff.1 hfinish
    simp only [holdsAt_iff]
    constructor
    . intro i id hstart
      exact exists_begunAt ⟨id, hstart⟩
    . apply hreflects.tasks.congr
      intro i task
      exact holdsAt_iff
  . intro rejections hfinish
    obtain ⟨hsome, rfl⟩ := finish_eq_error_iff.1 hfinish
    refine ⟨mt List.reverse_eq_nil_iff.1 hsome, ?_⟩
    apply hreflects.rejections.congr
    intro k rejection
    exact failsAt_iff
  . intro rejections more hfinish
    obtain ⟨hsome, rfl⟩ := finish_eq_error_iff.1 hfinish
    obtain ⟨added, hadded⟩ := rejections_run_append steps more
    refine ⟨_, finish_eq_error_iff.2 ⟨?_, rfl⟩, added.reverse, ?_⟩
    . rw [hadded]
      exact List.append_ne_nil_of_right_ne_nil added hsome
    . rw [hadded, List.reverse_append]

theorem finish_run_refused_and_extended :
    let steps : List Step := [.attach "1h" 60, .start "LP-1", .attach "30m" 30, .attach "2h" 120]
    let more : List Step := [.start "LP-2", .attach "1h" 60, .reject "x" .unparseable]
    IsAccepted steps 2 ∧ ∃ rejections',
      (run (steps ++ more)).finish = .error rejections' ∧
        [⟨"1h", .timeAsFirstArgument⟩, ⟨"2h", .timeWithoutTask⟩] <+: rejections' := by
  intro steps more
  obtain ⟨haccepted, _, _, _, hextended⟩ := finish_run_outcomes steps
  have hlatest : IsLatest (StartsAt steps) 1 2 := by
    refine ⟨by decide, ⟨"LP-1", rfl⟩, ?_⟩
    intro j hj hlt
    omega
  refine ⟨(haccepted 2 30 ⟨"30m", rfl⟩).2 ⟨1, hlatest, ?_⟩, hextended _ more rfl⟩
  intro j hj hlt
  omega

end Workday.Draft
