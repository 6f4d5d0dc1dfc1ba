import Mathlib.Data.List.Induction
import Mathlib.Tactic.Push
import Workday.Draft
import Workday.Proofs.InOrder

/-!
This module contains what the steps that make a draft amount to. Each step is judged by the steps
before it: minutes close the latest task if no others came after it, and are refused otherwise. The
draft holds what its steps begin, and the rejections that they meet, in their order.
-/

namespace Workday.Draft

inductive Step where
  | start (id : String)
  | attach (token : String) (minutes : UInt32)
  | reject (token : String) (reason : Reason)
  deriving Repr, BEq, DecidableEq, Inhabited

def apply (draft : Draft) : Step → Draft
  | .start id => draft.start id
  | .attach token minutes => draft.attach token minutes
  | .reject token reason => draft.reject token reason

def run (steps : List Step) : Draft :=
  steps.foldl apply empty

theorem run_concat (steps : List Step) (step : Step) :
    run (steps ++ [step]) = (run steps).apply step := by
  unfold run
  rw [List.foldl_append]
  rfl

section Places

variable (steps : List Step)

def StartsAt (i : Nat) : Prop := ∃ id, steps[i]? = some (.start id)

def AttachesAt (k : Nat) (minutes : UInt32) : Prop := ∃ token, steps[k]? = some (.attach token minutes)

/--
The minutes at `k` are the first ones for the task begun at `i`.
-/
def ClosesAt (i k : Nat) (minutes : UInt32) : Prop :=
  AttachesAt steps k minutes ∧ IsLatest (StartsAt steps) i k ∧
    ∀ j, i < j → j < k → ∀ earlier, ¬AttachesAt steps j earlier

/--
A step is refused because it says so, or because it brings minutes before any task, or minutes after
others for the same task.
-/
def RefusedAt (k : Nat) (rejection : Rejection) : Prop :=
  steps[k]? = some (.reject rejection.token rejection.reason) ∨
  (∃ minutes, steps[k]? = some (.attach rejection.token minutes)) ∧
    ((rejection.reason = .timeAsFirstArgument ∧ ∀ i < k, ¬StartsAt steps i) ∨
      (rejection.reason = .timeWithoutTask ∧
        ∃ i j earlier, IsLatest (StartsAt steps) i k ∧ i < j ∧ j < k ∧ AttachesAt steps j earlier))

/--
The task that a step begins has the minutes that close it, or none.
-/
def BegunAt (i : Nat) (task : Task) : Prop :=
  steps[i]? = some (.start task.id) ∧
    ∀ minutes, task.minutes = some minutes ↔ ∃ k, ClosesAt steps i k minutes

end Places

section Congr

variable {steps steps' : List Step} {i k : Nat} {minutes : UInt32} {rejection : Rejection}

theorem ClosesAt.congr (hcloses : ClosesAt steps i k minutes)
    (h : ∀ j ≤ k, steps[j]? = steps'[j]?) : ClosesAt steps' i k minutes := by
  obtain ⟨hattach, hlatest, hfirst⟩ := hcloses
  refine ⟨?_, hlatest.congr ?_, ?_⟩
  . rwa [AttachesAt, ← h k (Nat.le_refl k)]
  . intro j hj
    rw [StartsAt, StartsAt, h j (Nat.le_of_lt hj)]
  . intro j hij hjk earlier
    rw [AttachesAt, ← h j (Nat.le_of_lt hjk)]
    exact hfirst j hij hjk earlier

theorem RefusedAt.congr (hrefused : RefusedAt steps k rejection)
    (h : ∀ j ≤ k, steps[j]? = steps'[j]?) : RefusedAt steps' k rejection := by
  have hstarts : ∀ j < k, StartsAt steps j ↔ StartsAt steps' j := by
    intro j hj
    rw [StartsAt, StartsAt, h j (Nat.le_of_lt hj)]
  unfold RefusedAt at hrefused ⊢
  rw [← h k (Nat.le_refl k)]
  obtain hreject | ⟨hattach, ⟨hreason, hnone⟩ | ⟨hreason, i, j, earlier, hlatest, hij, hjk, hj⟩⟩ :=
    hrefused
  . exact .inl hreject
  . refine .inr ⟨hattach, .inl ⟨hreason, ?_⟩⟩
    intro i hi
    rw [← hstarts i hi]
    exact hnone i hi
  . refine .inr ⟨hattach, .inr ⟨hreason, i, j, earlier, hlatest.congr hstarts, hij, hjk, ?_⟩⟩
    rwa [AttachesAt, ← h j (Nat.le_of_lt hjk)]

end Congr

section Concat

variable {steps : List Step} {step : Step} {i k : Nat} {minutes : UInt32} {rejection : Rejection}
variable {task : Task}

theorem StartsAt.lt_length (h : StartsAt steps i) : i < steps.length := by
  obtain ⟨id, h⟩ := h
  exact (List.getElem?_eq_some_iff.1 h).1

theorem AttachesAt.lt_length (h : AttachesAt steps k minutes) : k < steps.length := by
  obtain ⟨token, h⟩ := h
  exact (List.getElem?_eq_some_iff.1 h).1

theorem RefusedAt.lt_length (h : RefusedAt steps k rejection) : k < steps.length := by
  cases h with
  | inl h => exact (List.getElem?_eq_some_iff.1 h).1
  | inr h =>
    obtain ⟨⟨minutes, h⟩, _⟩ := h
    exact (List.getElem?_eq_some_iff.1 h).1

theorem BegunAt.startsAt (h : BegunAt steps i task) : StartsAt steps i := ⟨task.id, h.1⟩

theorem refusedAt_concat_iff (k : Nat) (rejection : Rejection) :
    RefusedAt (steps ++ [step]) k rejection ↔
      RefusedAt steps k rejection ∨
        k = steps.length ∧ RefusedAt (steps ++ [step]) steps.length rejection := by
  apply concat_iff_of_congr (P := fun steps k => RefusedAt steps k rejection)
  . intro _ _ _ hsame h
    exact h.congr hsame
  . intro _ _ h
    exact h.lt_length

theorem closesAt_concat_iff :
    ClosesAt (steps ++ [step]) i k minutes ↔
      ClosesAt steps i k minutes ∨
        k = steps.length ∧ ClosesAt (steps ++ [step]) i steps.length minutes := by
  apply concat_iff_of_congr (P := fun steps k => ClosesAt steps i k minutes)
  . intro _ _ _ hsame h
    exact h.congr hsame
  . intro _ _ h
    exact h.1.lt_length

theorem startsAt_concat_of_lt (h : i < steps.length) :
    StartsAt (steps ++ [step]) i ↔ StartsAt steps i := by
  rw [StartsAt, StartsAt, List.getElem?_append_left h]

theorem attachesAt_concat_of_lt (h : k < steps.length) :
    AttachesAt (steps ++ [step]) k minutes ↔ AttachesAt steps k minutes := by
  rw [AttachesAt, AttachesAt, List.getElem?_append_left h]

-- Only minutes that close a task change what is known of the earlier steps.
theorem begunAt_concat_iff
    (h : ∀ i minutes, ¬ClosesAt (steps ++ [step]) i steps.length minutes) (i : Nat) (task : Task) :
    BegunAt (steps ++ [step]) i task ↔
      BegunAt steps i task ∨ i = steps.length ∧ BegunAt (steps ++ [step]) steps.length task := by
  have hcloses : ∀ i k minutes,
      ClosesAt (steps ++ [step]) i k minutes ↔ ClosesAt steps i k minutes := by
    intro i k minutes
    rw [closesAt_concat_iff]
    exact or_iff_left fun hlast => h i minutes hlast.2
  have hlt : ∀ steps i, BegunAt steps i task → i < steps.length := by
    intro steps i hbegun
    exact hbegun.startsAt.lt_length
  rcases Nat.lt_trichotomy i steps.length with hi | rfl | hi
  . simp only [BegunAt, hcloses, List.getElem?_append_left hi, Nat.ne_of_lt hi, false_and, or_false]
  . simp only [true_and]
    exact (or_iff_right fun hbegun => Nat.lt_irrefl _ (hlt _ _ hbegun)).symm
  . constructor
    . intro hbegun
      have := hlt _ _ hbegun
      rw [List.length_append, List.length_singleton] at this
      omega
    . intro hbegun
      cases hbegun with
      | inl hbegun =>
        have := hlt _ _ hbegun
        omega
      | inr hbegun => omega

theorem not_closesAt_of_not_attach (h : ∀ token minutes, step ≠ .attach token minutes) (i : Nat)
    (minutes : UInt32) : ¬ClosesAt (steps ++ [step]) i steps.length minutes := by
  intro ⟨⟨token, hattach⟩, _⟩
  rw [List.getElem?_concat_length] at hattach
  exact h token minutes (Option.some.inj hattach)

theorem isLatest_concat_iff :
    IsLatest (StartsAt (steps ++ [step])) i steps.length ↔
      IsLatest (StartsAt steps) i steps.length := by
  constructor
  . intro h
    exact h.congr fun j hj => startsAt_concat_of_lt hj
  . intro h
    exact h.congr fun j hj => (startsAt_concat_of_lt hj).symm

/--
The task begun at `i` is the latest one and no minutes were given since.
-/
def IsOpen (steps : List Step) (i : Nat) : Prop :=
  IsLatest (StartsAt steps) i steps.length ∧ ∀ j, i < j → ∀ earlier, ¬AttachesAt steps j earlier

theorem closesAt_attach_iff {token : String} {given : UInt32} :
    ClosesAt (steps ++ [.attach token given]) i steps.length minutes ↔
      minutes = given ∧ IsOpen steps i := by
  have hattaches : AttachesAt (steps ++ [.attach token given]) steps.length minutes ↔
      minutes = given := by
    simp [AttachesAt, eq_comm]
  rw [ClosesAt, isLatest_concat_iff, hattaches, IsOpen]
  refine and_congr_right fun _ => and_congr_right fun _ => forall₂_congr fun j hij => ?_
  constructor
  . intro h earlier hj
    exact h hj.lt_length earlier ((attachesAt_concat_of_lt hj.lt_length).2 hj)
  . intro h hj earlier
    rw [attachesAt_concat_of_lt hj]
    exact h earlier

theorem ClosesAt.eq_of_closesAt {k' : Nat} {minutes' : UInt32} (h : ClosesAt steps i k minutes)
    (h' : ClosesAt steps i k' minutes') : minutes = minutes' := by
  have hle : ∀ {k k' minutes minutes'}, ClosesAt steps i k minutes → ClosesAt steps i k' minutes' →
      k ≤ k' := by
    intro k k' minutes minutes' h h'
    exact Nat.le_of_not_lt fun hlt => h.2.2 k' h'.2.1.1 hlt minutes' h'.1
  have heq : k = k' := Nat.le_antisymm (hle h h') (hle h' h)
  obtain ⟨token, hk⟩ := h.1
  obtain ⟨token', hk'⟩ := h'.1
  rw [heq, hk'] at hk
  cases hk
  rfl

theorem exists_begunAt (h : StartsAt steps i) : ∃ task, BegunAt steps i task := by
  obtain ⟨id, hid⟩ := h
  by_cases hclosed : ∃ minutes k, ClosesAt steps i k minutes
  . obtain ⟨minutes, k, hclosed⟩ := hclosed
    refine ⟨⟨id, some minutes⟩, hid, ?_⟩
    intro other
    constructor
    . intro heq
      exact ⟨k, Option.some.inj heq ▸ hclosed⟩
    . intro ⟨k', hother⟩
      rw [hclosed.eq_of_closesAt hother]
  . refine ⟨⟨id, none⟩, hid, ?_⟩
    intro other
    simp only [reduceCtorEq, false_iff]
    intro hother
    exact hclosed ⟨other, hother⟩

-- The first of the minutes after a task close it.
theorem exists_closesAt {j : Nat} (hlatest : IsLatest (StartsAt steps) i steps.length)
    (hij : i < j) (hj : AttachesAt steps j minutes) : ∃ minutes k, ClosesAt steps i k minutes := by
  induction j using Nat.strong_induction_on generalizing minutes with
  | _ j ih =>
    by_cases hfirst : ∀ l, i < l → l < j → ∀ earlier, ¬AttachesAt steps l earlier
    . refine ⟨minutes, j, hj, ⟨hij, hlatest.2.1, ?_⟩, hfirst⟩
      intro l hil hlj
      exact hlatest.2.2 l hil (Nat.lt_trans hlj hj.lt_length)
    . push Not at hfirst
      obtain ⟨l, hil, hlj, earlier, hl⟩ := hfirst
      exact ih l hlj hil hl

theorem BegunAt.isOpen_iff (h : BegunAt steps i task)
    (hlatest : IsLatest (StartsAt steps) i steps.length) :
    IsOpen steps i ↔ task.minutes = none := by
  constructor
  . intro hopen
    cases hminutes : task.minutes with
    | none => rfl
    | some minutes =>
      obtain ⟨k, hk⟩ := (h.2 minutes).1 hminutes
      exact absurd hk.1 (hopen.2 k hk.2.1.1 minutes)
  . intro hnone
    refine ⟨hlatest, ?_⟩
    intro j hij earlier hj
    obtain ⟨minutes, hclosed⟩ := exists_closesAt hlatest hij hj
    have hminutes := (h.2 minutes).2 hclosed
    rw [hnone] at hminutes
    contradiction

theorem isLatest_of_last (hlast : ∀ k other, i ≤ k → (BegunAt steps k other ↔ k = i ∧ other = task)) :
    IsLatest (StartsAt steps) i steps.length := by
  have hbegun : BegunAt steps i task := (hlast i task (Nat.le_refl i)).2 ⟨rfl, rfl⟩
  refine ⟨hbegun.startsAt.lt_length, hbegun.startsAt, ?_⟩
  intro j hij _ hj
  obtain ⟨other, hother⟩ := exists_begunAt hj
  have := ((hlast j other (Nat.le_of_lt hij)).1 hother).1
  omega

end Concat

/--
A draft reflects steps if it holds the tasks that they begin and the rejections that they meet.
-/
structure Reflects (steps : List Step) (draft : Draft) : Prop where
  rejections : InOrder (RefusedAt steps) draft.rejections.reverse
  tasks : InOrder (BegunAt steps) draft.tasks.reverse

section Reflects

variable {steps : List Step} {draft : Draft} {token : String} {minutes : UInt32}

theorem reflects_empty : Reflects [] empty where
  rejections := by
    apply inOrder_nil_iff.2
    intro k rejection h
    exact absurd h.lt_length (Nat.not_lt_zero k)
  tasks := by
    apply inOrder_nil_iff.2
    intro i task h
    exact absurd h.startsAt.lt_length (Nat.not_lt_zero i)

theorem Reflects.start (h : Reflects steps draft) (id : String) :
    Reflects (steps ++ [.start id]) (draft.start id) where
  rejections := by
    apply h.rejections.keep refusedAt_concat_iff
    intro rejection hrefused
    simp [RefusedAt] at hrefused
  tasks := by
    rw [Draft.start, List.reverse_cons]
    apply h.tasks.extend (fun i task hbegun => hbegun.startsAt.lt_length)
    . exact begunAt_concat_iff (not_closesAt_of_not_attach (by simp))
    . intro task
      have hclosed : ∀ minutes k, ¬ClosesAt (steps ++ [.start id]) steps.length k minutes := by
        intro minutes k hclosed
        have hlt := hclosed.2.1.1
        have hle := hclosed.1.lt_length
        rw [List.length_append, List.length_singleton] at hle
        omega
      obtain ⟨other, given⟩ := task
      simp [BegunAt, hclosed, eq_comm, Option.eq_none_iff_forall_ne_some]

theorem Reflects.reject_of {step : Step} {reason : Reason} (h : Reflects steps draft)
    (hstart : ∀ id, step ≠ .start id)
    (hcloses : ∀ i minutes, ¬ClosesAt (steps ++ [step]) i steps.length minutes)
    (hrefused : ∀ rejection, RefusedAt (steps ++ [step]) steps.length rejection ↔
      rejection = ⟨token, reason⟩) :
    Reflects (steps ++ [step]) (draft.reject token reason) where
  rejections := by
    rw [Draft.reject, List.reverse_cons]
    exact h.rejections.extend (fun k rejection hrefused => hrefused.lt_length)
      refusedAt_concat_iff hrefused
  tasks := by
    apply h.tasks.keep (begunAt_concat_iff hcloses)
    intro task hbegun
    have hstep := hbegun.1
    rw [List.getElem?_concat_length] at hstep
    exact hstart task.id (Option.some.inj hstep)

theorem Reflects.reject (h : Reflects steps draft) (token : String) (reason : Reason) :
    Reflects (steps ++ [.reject token reason]) (draft.reject token reason) := by
  apply h.reject_of
  . simp
  . exact not_closesAt_of_not_attach (by simp)
  . intro ⟨other, why⟩
    simp [RefusedAt, eq_comm]

theorem refusedAt_attach_iff {rejection : Rejection} :
    RefusedAt (steps ++ [.attach token minutes]) steps.length rejection ↔
      rejection.token = token ∧
        ((rejection.reason = .timeAsFirstArgument ∧ ∀ i, ¬StartsAt steps i) ∨
          (rejection.reason = .timeWithoutTask ∧ ∃ i j earlier,
            IsLatest (StartsAt steps) i steps.length ∧ i < j ∧ AttachesAt steps j earlier)) := by
  have hstarts : (∀ i < steps.length, ¬StartsAt (steps ++ [.attach token minutes]) i) ↔
      ∀ i, ¬StartsAt steps i := by
    constructor
    . intro h i hi
      exact h i hi.lt_length ((startsAt_concat_of_lt hi.lt_length).2 hi)
    . intro h i hlt
      rw [startsAt_concat_of_lt hlt]
      exact h i
  have hattaches : ∀ j earlier,
      j < steps.length ∧ AttachesAt (steps ++ [.attach token minutes]) j earlier ↔
        AttachesAt steps j earlier := by
    intro j earlier
    constructor
    . intro ⟨hlt, hj⟩
      rwa [← attachesAt_concat_of_lt hlt]
    . intro hj
      exact ⟨hj.lt_length, (attachesAt_concat_of_lt hj.lt_length).2 hj⟩
  simp [RefusedAt, hstarts, hattaches, isLatest_concat_iff, eq_comm]

theorem Reflects.refuse {reason : Reason} (h : Reflects steps draft) (hopen : ∀ i, ¬IsOpen steps i)
    (hrefused : ∀ rejection, RefusedAt (steps ++ [.attach token minutes]) steps.length rejection ↔
      rejection = ⟨token, reason⟩) :
    Reflects (steps ++ [.attach token minutes]) (draft.reject token reason) := by
  apply h.reject_of
  . simp
  . intro i minutes hcloses
    exact hopen i (closesAt_attach_iff.1 hcloses).2
  . exact hrefused

-- The latest task of a draft was begun at the latest place of a task.
theorem Reflects.exists_last {task : Task} {earlier : List Task} (h : Reflects steps draft)
    (htasks : draft.tasks = task :: earlier) :
    ∃ last, BegunAt steps last task ∧ IsLatest (StartsAt steps) last steps.length ∧
      (∀ i other, last ≤ i → (BegunAt steps i other ↔ i = last ∧ other = task)) ∧
      InOrder (fun i other => BegunAt steps i other ∧ i < last) earlier.reverse := by
  have hinorder := h.tasks
  rw [htasks, List.reverse_cons] at hinorder
  obtain ⟨last, hlast, hearlier⟩ := exists_last_of_inOrder hinorder
  refine ⟨last, ?_, isLatest_of_last hlast, hlast, hearlier⟩
  exact (hlast last task (Nat.le_refl last)).2 ⟨rfl, rfl⟩

theorem Reflects.not_startsAt (h : Reflects steps draft) (hnone : draft.tasks = []) (i : Nat) :
    ¬StartsAt steps i := by
  have htasks := h.tasks
  rw [hnone, List.reverse_nil, inOrder_nil_iff] at htasks
  intro hi
  obtain ⟨task, hbegun⟩ := exists_begunAt hi
  exact htasks i task hbegun

theorem Reflects.refusedAt_first (h : Reflects steps draft) (hnone : draft.tasks = [])
    (rejection : Rejection) :
    RefusedAt (steps ++ [.attach token minutes]) steps.length rejection ↔
      rejection = ⟨token, .timeAsFirstArgument⟩ := by
  obtain ⟨other, reason⟩ := rejection
  have hstarts := h.not_startsAt hnone
  have hlatest : ∀ i, ¬IsLatest (StartsAt steps) i steps.length := fun i hi => hstarts i hi.2.1
  simp [refusedAt_attach_iff, hstarts, hlatest]

theorem Reflects.refuse_first (h : Reflects steps draft) (hnone : draft.tasks = []) :
    Reflects (steps ++ [.attach token minutes]) (draft.reject token .timeAsFirstArgument) := by
  apply h.refuse
  . intro i hopen
    exact h.not_startsAt hnone i hopen.1.2.1
  . exact h.refusedAt_first hnone

theorem Reflects.refusedAt_again (h : Reflects steps draft) {id : String} {given : UInt32}
    {earlier : List Task} (htasks : draft.tasks = ⟨id, some given⟩ :: earlier)
    (rejection : Rejection) :
    RefusedAt (steps ++ [.attach token minutes]) steps.length rejection ↔
      rejection = ⟨token, .timeWithoutTask⟩ := by
  obtain ⟨other, reason⟩ := rejection
  obtain ⟨last, hbegun, hlatest, _⟩ := h.exists_last htasks
  obtain ⟨k, hk⟩ := (hbegun.2 given).1 rfl
  have hstart : ¬∀ i, ¬StartsAt steps i := fun hnone => hnone last hlatest.2.1
  have hagain : ∃ i j earlier,
      IsLatest (StartsAt steps) i steps.length ∧ i < j ∧ AttachesAt steps j earlier :=
    ⟨last, k, given, hlatest, hk.2.1.1, hk.1⟩
  simp only [refusedAt_attach_iff, hstart, hagain, and_false, and_true, false_or,
    Rejection.mk.injEq]

theorem Reflects.refuse_again (h : Reflects steps draft) {id : String} {given : UInt32}
    {earlier : List Task} (htasks : draft.tasks = ⟨id, some given⟩ :: earlier) :
    Reflects (steps ++ [.attach token minutes]) (draft.reject token .timeWithoutTask) := by
  obtain ⟨last, hbegun, hlatest, _⟩ := h.exists_last htasks
  have hclosed : ¬IsOpen steps last := by simp [hbegun.isOpen_iff hlatest]
  apply h.refuse
  . intro i hopen
    exact hclosed (hopen.1.unique hlatest ▸ hopen)
  . exact h.refusedAt_again htasks

theorem not_refusedAt_of_isOpen {last : Nat} (h : IsOpen steps last) (rejection : Rejection) :
    ¬RefusedAt (steps ++ [.attach token minutes]) steps.length rejection := by
  intro hrefused
  obtain ⟨_, ⟨_, hstarts⟩ | ⟨_, i, j, other, hi, hij, hj⟩⟩ := refusedAt_attach_iff.1 hrefused
  . exact hstarts last h.1.2.1
  . rw [hi.unique h.1] at hij
    exact h.2 j hij other hj

theorem Reflects.not_refusedAt (h : Reflects steps draft) {id : String} {earlier : List Task}
    (htasks : draft.tasks = ⟨id, none⟩ :: earlier) (rejection : Rejection) :
    ¬RefusedAt (steps ++ [.attach token minutes]) steps.length rejection := by
  obtain ⟨last, hbegun, hlatest, _⟩ := h.exists_last htasks
  exact not_refusedAt_of_isOpen ((hbegun.isOpen_iff hlatest).2 rfl) rejection

theorem isOpen_iff_eq {last i : Nat} (h : IsOpen steps last) : IsOpen steps i ↔ i = last := by
  constructor
  . intro hopen
    exact hopen.1.unique h.1
  . intro heq
    exact heq ▸ h

theorem exists_closesAt_attach_iff {last i : Nat} {other : UInt32} (h : IsOpen steps last) :
    (∃ k, ClosesAt (steps ++ [.attach token minutes]) i k other) ↔
      (∃ k, ClosesAt steps i k other) ∨ i = last ∧ other = minutes := by
  have hcloses : ∀ k, ClosesAt (steps ++ [.attach token minutes]) i k other ↔
      ClosesAt steps i k other ∨ k = steps.length ∧ i = last ∧ other = minutes := by
    intro k
    rw [closesAt_concat_iff, closesAt_attach_iff, isOpen_iff_eq h, and_comm (b := i = last)]
  simp only [hcloses, exists_or, exists_eq_left]

theorem begunAt_attach_iff {last : Nat} {id : String} (h : IsOpen steps last)
    (hbegun : BegunAt steps last ⟨id, none⟩) (i : Nat) (task : Task) :
    BegunAt (steps ++ [.attach token minutes]) i task ↔
      BegunAt steps i task ∧ i ≠ last ∨ i = last ∧ task = ⟨id, some minutes⟩ := by
  have hstart : (steps ++ [.attach token minutes])[i]? = some (.start task.id) ↔
      steps[i]? = some (.start task.id) := by
    simp [getElem?_concat_eq_some_iff]
  rw [BegunAt, hstart]
  simp only [exists_closesAt_attach_iff h]
  by_cases hi : i = last
  . obtain ⟨other, given⟩ := task
    have hnone : ∀ minutes, ¬∃ k, ClosesAt steps last k minutes := by
      intro minutes hminutes
      exact absurd ((hbegun.2 minutes).2 hminutes) (by simp)
    have hgiven : (∀ a, given = some a ↔ a = minutes) ↔ given = some minutes := by
      constructor
      . intro hclosed
        exact (hclosed minutes).2 rfl
      . intro heq a
        rw [heq, Option.some.injEq, eq_comm]
    simp only [hi, hbegun.1, hnone, hgiven, false_or, true_and, ne_eq, not_true_eq_false, and_false,
      Task.mk.injEq, Option.some.injEq, Step.start.injEq, eq_comm (a := id)]
  . simp [hi, BegunAt]

theorem Reflects.close (h : Reflects steps draft) {id : String} {earlier : List Task}
    (htasks : draft.tasks = ⟨id, none⟩ :: earlier) :
    Reflects (steps ++ [.attach token minutes])
      { draft with tasks := ⟨id, some minutes⟩ :: earlier } := by
  obtain ⟨last, hbegun, hlatest, hlast, hearlier⟩ := h.exists_last htasks
  have hopen : IsOpen steps last := (hbegun.isOpen_iff hlatest).2 rfl
  constructor
  . exact h.rejections.keep refusedAt_concat_iff (h.not_refusedAt htasks)
  . rw [List.reverse_cons]
    apply InOrder.concat last
    . apply hearlier.congr
      intro i task
      apply and_congr_left
      intro hi
      simp [begunAt_attach_iff hopen hbegun, Nat.ne_of_lt hi]
    . intro i task hi
      rw [begunAt_attach_iff hopen hbegun, hlast i task hi]
      simp +contextual

theorem Reflects.attach (h : Reflects steps draft) (token : String) (minutes : UInt32) :
    Reflects (steps ++ [.attach token minutes]) (draft.attach token minutes) := by
  unfold Draft.attach
  split
  . next hnone => exact h.refuse_first hnone
  . next htasks => exact h.refuse_again htasks
  . next htasks => exact h.close htasks

theorem Reflects.apply (h : Reflects steps draft) (step : Step) :
    Reflects (steps ++ [step]) (draft.apply step) := by
  cases step with
  | start id => exact h.start id
  | attach token minutes => exact h.attach token minutes
  | reject token reason => exact h.reject token reason

theorem reflects_run (steps : List Step) : Reflects steps (run steps) := by
  induction steps using List.reverseRecOn with
  | nil => exact reflects_empty
  | append_singleton steps step ih =>
    rw [run_concat]
    exact ih.apply step

end Reflects

end Workday.Draft
