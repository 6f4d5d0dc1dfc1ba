import Mathlib.Algebra.BigOperators.Group.List.Basic
import Workday.Proofs.Allocation.Outcome

/-!
This module contains what the order of the tasks means for the allocation of the day. It decides
which gap is the first one, and with that which task has the remainder. How the allocation comes out
and which minutes it gives do not depend on it.
-/

namespace Workday

open scoped List

variable {tasks tasks' : List Task}

theorem sumGiven_of_perm (h : tasks.Perm tasks') : sumGiven tasks = sumGiven tasks' := by
  rw [sumGiven_eq_sum, sumGiven_eq_sum]
  exact (h.map Task.spent).sum_eq

theorem gapCount_of_perm (h : tasks.Perm tasks') : gapCount tasks = gapCount tasks' :=
  h.countP_eq Task.isGap

theorem eq_mk_none_of_isGap {task : Task} (h : task.isGap = true) : task = ⟨task.id, none⟩ := by
  obtain ⟨id, given⟩ := task
  cases given with
  | none => rfl
  | some minutes => contradiction

theorem exists_find?_isGap (h : gapCount tasks ≠ 0) :
    ∃ id, tasks.find? Task.isGap = some ⟨id, none⟩ := by
  obtain ⟨gap, hmem, hgap⟩ := List.countP_pos_iff.1 (Nat.pos_of_ne_zero h)
  have hsome : (tasks.find? Task.isGap).isSome := List.find?_isSome.2 ⟨gap, hmem, hgap⟩
  obtain ⟨first, hfirst⟩ := Option.isSome_iff_exists.1 hsome
  refine ⟨first.id, ?_⟩
  rw [hfirst, ← eq_mk_none_of_isGap (List.find?_some hfirst)]

section Filling

variable {id : String}

-- The tasks before the first gap have their minutes, so they change places with it.
theorem exists_rest_of_find? (h : tasks.find? Task.isGap = some ⟨id, none⟩) :
    ∃ rest, tasks.Perm (⟨id, none⟩ :: rest) ∧ ∀ first others,
      (fillFirst first others tasks).Perm (⟨id, some first⟩ :: fillWith others rest) := by
  induction tasks with
  | nil => contradiction
  | cons task tasks ih =>
    obtain ⟨other, given⟩ := task
    cases given with
    | none =>
      rw [List.find?_cons_of_pos (Task.isGap_mk_none other)] at h
      obtain ⟨rfl, _⟩ := Task.mk.inj (Option.some.inj h)
      refine ⟨tasks, List.Perm.refl _, ?_⟩
      intro first others
      rw [fillFirst_cons_none]
    | some minutes =>
      rw [List.find?_cons_of_neg (by simp)] at h
      obtain ⟨rest, hrest, hfill⟩ := ih h
      refine ⟨⟨other, some minutes⟩ :: rest, ?_, ?_⟩
      . exact (hrest.cons _).trans (List.Perm.swap ..)
      . intro first others
        rw [fillFirst_cons_some, fillWith_cons_some]
        exact ((hfill first others).cons _).trans (List.Perm.swap ..)

variable (first others : UInt32)

theorem map_minutes_fillFirst_of_perm (h : tasks.Perm tasks') (hgaps : gapCount tasks ≠ 0) :
    ((fillFirst first others tasks).map Task.minutes).Perm
      ((fillFirst first others tasks').map Task.minutes) := by
  obtain ⟨id, hfirst⟩ := exists_find?_isGap hgaps
  obtain ⟨id', hfirst'⟩ := exists_find?_isGap (gapCount_of_perm h ▸ hgaps)
  obtain ⟨rest, hrest, hfill⟩ := exists_rest_of_find? hfirst
  obtain ⟨rest', hrest', hfill'⟩ := exists_rest_of_find? hfirst'
  have hsame : (none :: rest.map Task.minutes).Perm (none :: rest'.map Task.minutes) :=
    (hrest.symm.trans (h.trans hrest')).map Task.minutes
  have hothers : ((fillWith others rest).map Task.minutes).Perm
      ((fillWith others rest').map Task.minutes) := by
    rw [map_minutes_fillWith, map_minutes_fillWith]
    exact hsame.cons_inv.map _
  calc (fillFirst first others tasks).map Task.minutes
    _ ~ some first :: (fillWith others rest).map Task.minutes :=
      (hfill first others).map Task.minutes
    _ ~ some first :: (fillWith others rest').map Task.minutes := hothers.cons _
    _ ~ (fillFirst first others tasks').map Task.minutes :=
      ((hfill' first others).map Task.minutes).symm

theorem fillFirst_of_perm (h : tasks.Perm tasks') (hgaps : gapCount tasks ≠ 0)
    (hfirst : tasks.find? Task.isGap = tasks'.find? Task.isGap) :
    (fillFirst first others tasks).Perm (fillFirst first others tasks') := by
  obtain ⟨id, hgap⟩ := exists_find?_isGap hgaps
  obtain ⟨rest, hrest, hfill⟩ := exists_rest_of_find? hgap
  obtain ⟨rest', hrest', hfill'⟩ := exists_rest_of_find? (hfirst ▸ hgap)
  have hsame : rest.Perm rest' := (hrest.symm.trans (h.trans hrest')).cons_inv
  have hothers : (fillWith others rest).Perm (fillWith others rest') := hsame.map _
  exact (hfill first others).trans ((hothers.cons _).trans (hfill' first others).symm)

end Filling

theorem find?_isGap_eq_of_id (hgaps : gapCount tasks ≠ 0) (hgaps' : gapCount tasks' ≠ 0)
    (h : (tasks.find? Task.isGap).map Task.id = (tasks'.find? Task.isGap).map Task.id) :
    tasks.find? Task.isGap = tasks'.find? Task.isGap := by
  obtain ⟨id, hfirst⟩ := exists_find?_isGap hgaps
  obtain ⟨id', hfirst'⟩ := exists_find?_isGap hgaps'
  rw [hfirst, hfirst'] at h ⊢
  rw [Option.map_some, Option.map_some, Option.some.injEq] at h
  rw [show id = id' from h]

/--
Tasks in another order are allocated with the same outcome. If the gaps can be filled, the same
minutes come out, and each task has the same of them if the first gap is one for the same task.
-/
theorem fillGaps_of_perm (hfew : tasks.length < 2 ^ 32) (h : tasks.Perm tasks') :
    (∃ imbalance, fillGaps tasks = .error (.unbalanced imbalance) ∧
      fillGaps tasks' = .error (.unbalanced imbalance)) ∨
    ∃ result result', fillGaps tasks = .ok result ∧ fillGaps tasks' = .ok result' ∧
      (result.map Task.minutes).Perm (result'.map Task.minutes) ∧
      ((tasks.find? Task.isGap).map Task.id = (tasks'.find? Task.isGap).map Task.id →
        result.Perm result') := by
  have hcount : gapCount tasks < 2 ^ 32 := Nat.lt_of_le_of_lt (gapCount_le_length tasks) hfew
  have hfit : sumGiven tasks < 2 ^ 64 := sumGiven_lt (Nat.le_of_lt hfew)
  have htotal := sumGiven_of_perm h
  have hgaps' := gapCount_of_perm h
  obtain ⟨hover, heq⟩ | ⟨hunder, hgaps, heq⟩ | ⟨hfull, hgaps, heq⟩ | ⟨hleft, hgaps, heq⟩ :=
    fillGaps_cases hcount hfit
  . refine .inl ⟨_, heq, ?_⟩
    rw [fillGaps_of_over (htotal ▸ hfit) (htotal ▸ hover), assignedMinutes_eq_min hfit,
      assignedMinutes_eq_min (htotal ▸ hfit), htotal]
    rfl
  . refine .inl ⟨_, heq, ?_⟩
    rw [htotal] at hunder
    rw [fillGaps_of_full (hgaps' ▸ hgaps) (Nat.le_of_lt hunder), if_neg (Nat.ne_of_lt hunder), htotal]
  . refine .inr ⟨_, _, heq, ?_, h.map Task.minutes, fun _ => h⟩
    rw [htotal] at hfull
    rw [fillGaps_of_full (hgaps' ▸ hgaps) (Nat.le_of_eq hfull), if_pos hfull]
  . have hfilled := fillGaps_of_gaps (hgaps' ▸ hcount) (hgaps' ▸ hgaps) (htotal ▸ hleft)
    refine .inr ⟨_, _, heq, hfilled, ?_, ?_⟩
    . unfold filled
      rw [htotal, hgaps']
      exact map_minutes_fillFirst_of_perm _ _ h hgaps
    . intro hid
      unfold filled
      rw [htotal, hgaps']
      exact fillFirst_of_perm _ _ h hgaps (find?_isGap_eq_of_id hgaps (hgaps' ▸ hgaps) hid)

theorem fillGaps_of_perm_repeated_id :
    let tasks : List Task := [⟨"LP-1", none⟩, ⟨"LP-2", some 379⟩, ⟨"LP-1", none⟩, ⟨"LP-3", none⟩]
    let tasks' : List Task := [⟨"LP-2", some 379⟩, ⟨"LP-1", none⟩, ⟨"LP-3", none⟩, ⟨"LP-1", none⟩]
    let result : List Task :=
      [⟨"LP-1", some 35⟩, ⟨"LP-2", some 379⟩, ⟨"LP-1", some 33⟩, ⟨"LP-3", some 33⟩]
    let result' : List Task :=
      [⟨"LP-2", some 379⟩, ⟨"LP-1", some 35⟩, ⟨"LP-3", some 33⟩, ⟨"LP-1", some 33⟩]
    tasks.length < 2 ^ 32 ∧ tasks.Perm tasks' ∧ fillGaps tasks = .ok result ∧
      fillGaps tasks' = .ok result' ∧ result.Perm result' := by
  intro tasks tasks' result result'
  have hfew : tasks.length < 2 ^ 32 := by decide
  have hperm : tasks.Perm tasks' := by decide
  have hfill : fillGaps tasks = .ok result := by decide
  have hfill' : fillGaps tasks' = .ok result' := by decide
  obtain ⟨_, herror, _⟩ | ⟨_, _, hok, hok', _, hsame⟩ := fillGaps_of_perm hfew hperm
  . rw [hfill] at herror
    contradiction
  . rw [hfill] at hok
    rw [hfill'] at hok'
    obtain rfl := Except.ok.inj hok
    obtain rfl := Except.ok.inj hok'
    exact ⟨hfew, hperm, hfill, hfill', hsame (by decide)⟩

end Workday
