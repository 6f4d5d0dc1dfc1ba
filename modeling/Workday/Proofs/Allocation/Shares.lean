import Workday.Proofs.Allocation.Outcome

/-!
This module contains what each task has once the gaps are filled. Minutes that were given stay as
they are, the first gap has an even share and the remainder, every other gap has an even share, and a
day that is full is not filled any further.
-/

namespace Workday

section Filling

variable {tasks : List Task} {first others minutes : UInt32} {i : Nat} {id : String} {given : UInt32}

theorem getElem?_fillWith_of_given (h : tasks[i]? = some ⟨id, some given⟩) :
    (fillWith minutes tasks)[i]? = some ⟨id, some given⟩ := by
  unfold fillWith
  rw [List.getElem?_map, h]
  rfl

theorem getElem?_fillWith_of_gap (h : tasks[i]? = some ⟨id, none⟩) :
    (fillWith minutes tasks)[i]? = some ⟨id, some minutes⟩ := by
  unfold fillWith
  rw [List.getElem?_map, h]
  rfl

theorem getElem?_fillFirst_of_given (h : tasks[i]? = some ⟨id, some given⟩) :
    (fillFirst first others tasks)[i]? = some ⟨id, some given⟩ := by
  induction tasks generalizing i with
  | nil => simp at h
  | cons task tasks ih =>
    obtain ⟨_, minutes⟩ := task
    cases i with
    | zero =>
      rw [List.getElem?_cons_zero] at h
      cases h
      rfl
    | succ i =>
      rw [List.getElem?_cons_succ] at h
      cases minutes with
      | none =>
        rw [fillFirst_cons_none, List.getElem?_cons_succ]
        exact getElem?_fillWith_of_given h
      | some =>
        rw [fillFirst_cons_some, List.getElem?_cons_succ]
        exact ih h

-- A gap is the first one if there is none before it.
theorem getElem?_fillFirst_of_gap (h : tasks[i]? = some ⟨id, none⟩) :
    (fillFirst first others tasks)[i]? =
      some ⟨id, some (if gapCount (tasks.take i) = 0 then first else others)⟩ := by
  induction tasks generalizing i with
  | nil => simp at h
  | cons task tasks ih =>
    obtain ⟨_, minutes⟩ := task
    cases i with
    | zero =>
      rw [List.getElem?_cons_zero] at h
      cases h
      rfl
    | succ i =>
      rw [List.getElem?_cons_succ] at h
      rw [List.take_succ_cons]
      cases minutes with
      | none =>
        rw [fillFirst_cons_none, List.getElem?_cons_succ, gapCount_cons_none,
          if_neg (Nat.succ_ne_zero _)]
        exact getElem?_fillWith_of_gap h
      | some =>
        rw [fillFirst_cons_some, List.getElem?_cons_succ, gapCount_cons_some]
        exact ih h

end Filling

/--
What filling the gaps of a list makes of it: the same tasks in their order, each with the minutes
that it was given or with its share of what they leave of the day.
-/
structure Fills (tasks result : List Task) : Prop where
  map_id_eq : result.map Task.id = tasks.map Task.id
  of_given : ∀ (i : Nat) (id : String) (given : UInt32),
    tasks[i]? = some ⟨id, some given⟩ → result[i]? = some ⟨id, some given⟩
  of_gap : ∀ (i : Nat) (id : String), tasks[i]? = some ⟨id, none⟩ → ∃ share : UInt32,
    result[i]? = some ⟨id, some share⟩ ∧
      share.toNat = (480 - sumGiven tasks) / gapCount tasks +
        if gapCount (tasks.take i) = 0 then (480 - sumGiven tasks) % gapCount tasks else 0
  gapCount_eq : gapCount result = 0
  sumGiven_eq : sumGiven result = 480

section Filled

variable {tasks result : List Task}

theorem gapCount_ne_zero_of_gap {i : Nat} {id : String} (h : tasks[i]? = some ⟨id, none⟩) :
    gapCount tasks ≠ 0 := by
  have hmem : (⟨id, none⟩ : Task) ∈ tasks := List.mem_of_getElem? h
  have hpos : 0 < gapCount tasks := List.countP_pos_iff.2 ⟨_, hmem, rfl⟩
  omega

theorem fills_self (hgaps : gapCount tasks = 0) (hfull : sumGiven tasks = 480) :
    Fills tasks tasks where
  map_id_eq := rfl
  of_given _ _ _ h := h
  of_gap _ _ h := absurd hgaps (gapCount_ne_zero_of_gap h)
  gapCount_eq := hgaps
  sumGiven_eq := hfull

theorem fills_filled (hgaps : gapCount tasks ≠ 0) (hleft : sumGiven tasks ≤ 480) :
    Fills tasks (filled tasks) where
  map_id_eq := map_id_filled tasks
  of_given _ _ _ h := getElem?_fillFirst_of_given h
  of_gap i id h := by
    obtain ⟨hfirst, hothers⟩ := toNat_shares (Nat.sub_le 480 (sumGiven tasks)) (gapCount tasks)
    refine ⟨_, getElem?_fillFirst_of_gap h, ?_⟩
    split
    . exact hfirst
    . exact hothers
  gapCount_eq := gapCount_filled tasks
  sumGiven_eq := sumGiven_filled hgaps hleft

theorem fills_of_fillGaps (hcount : gapCount tasks < 2 ^ 32) (hfit : sumGiven tasks < 2 ^ 64)
    (h : fillGaps tasks = .ok result) : Fills tasks result := by
  obtain ⟨_, heq⟩ | ⟨_, _, heq⟩ | ⟨hfull, hgaps, heq⟩ | ⟨hleft, hgaps, heq⟩ :=
    fillGaps_cases hcount hfit
  . rw [heq] at h
    contradiction
  . rw [heq] at h
    contradiction
  . rw [heq] at h
    obtain rfl := Except.ok.inj h
    exact fills_self hgaps hfull
  . rw [heq] at h
    obtain rfl := Except.ok.inj h
    exact fills_filled hgaps hleft

-- A full day without gaps leaves nothing to fill.
theorem Fills.fillGaps_eq (h : Fills tasks result) : fillGaps result = .ok result := by
  have hfull := h.sumGiven_eq
  rw [fillGaps_of_full h.gapCount_eq (Nat.le_of_eq hfull), if_pos hfull]

theorem Fills.length_eq (h : Fills tasks result) : result.length = tasks.length := by
  rw [← List.length_map Task.id, h.map_id_eq, List.length_map]

theorem Fills.isGap_eq_false (h : Fills tasks result) {task : Task} (hmem : task ∈ result) :
    task.isGap = false := by
  have hnone := List.countP_eq_zero.1 h.gapCount_eq task hmem
  simpa using hnone

end Filled

/--
Where filling gaps succeeds it keeps the tasks, their order and all minutes that were given, and
leaves no gap and a full day. Every gap has an even share of what the given minutes leave of the day,
and the first one has the remainder on top of it. Filling once more changes nothing.
-/
theorem fillGaps_shares {tasks result : List Task} (hfew : tasks.length < 2 ^ 32)
    (h : fillGaps tasks = .ok result) :
    let left := 480 - sumGiven tasks
    let gaps := gapCount tasks
    result.length = tasks.length ∧ result.map Task.id = tasks.map Task.id ∧
      (∀ (i : Nat) (id : String) (given : UInt32),
        tasks[i]? = some ⟨id, some given⟩ → result[i]? = some ⟨id, some given⟩) ∧
      (∀ task ∈ result, task.isGap = false) ∧
      sumGiven result = 480 ∧
      (∀ (i : Nat) (id : String), tasks[i]? = some ⟨id, none⟩ → ∃ share : UInt32,
        result[i]? = some ⟨id, some share⟩ ∧
          share.toNat = left / gaps + if gapCount (tasks.take i) = 0 then left % gaps else 0) ∧
      fillGaps result = .ok result := by
  intro left gaps
  have hcount : gapCount tasks < 2 ^ 32 := Nat.lt_of_le_of_lt (gapCount_le_length tasks) hfew
  have hfit : sumGiven tasks < 2 ^ 64 := sumGiven_lt (Nat.le_of_lt hfew)
  have hfills := fills_of_fillGaps hcount hfit h
  exact ⟨hfills.length_eq, hfills.map_id_eq, hfills.of_given, fun _ => hfills.isGap_eq_false,
    hfills.sumGiven_eq, hfills.of_gap, hfills.fillGaps_eq⟩

theorem fillGaps_shares_remainder_of_later_gap :
    let tasks : List Task := [⟨"LP-1", some 379⟩, ⟨"LP-2", none⟩, ⟨"LP-1", none⟩]
    let result : List Task := [⟨"LP-1", some 379⟩, ⟨"LP-2", some 51⟩, ⟨"LP-1", some 50⟩]
    tasks.length < 2 ^ 32 ∧ fillGaps tasks = .ok result ∧ sumGiven result = 480 ∧
      fillGaps result = .ok result := by
  intro tasks result
  have hfew : tasks.length < 2 ^ 32 := by decide
  have hfill : fillGaps tasks = .ok result := by decide
  obtain ⟨_, _, _, _, hfull, _, hagain⟩ := fillGaps_shares hfew hfill
  exact ⟨hfew, hfill, hfull, hagain⟩

end Workday
