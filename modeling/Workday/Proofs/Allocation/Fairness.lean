import Mathlib.Algebra.Order.BigOperators.Group.List
import Workday.Proofs.Allocation.Outcome

/-!
This module contains why the allocation of a day is fair. The gaps could take any minutes that fill
the day. The ones that filling the gaps gives them have the largest smallest share of all, and they
are as even as can be with the first gap ahead of the others. All of this takes a sum of the given
minutes that 64 bits hold.
-/

namespace Workday

/--
The minutes of the tasks once their gaps have taken the given shares, one after another.
-/
def assign : List Task → List Nat → List Nat
  | [], _ => []
  | task :: tasks, shares =>
    if task.isGap then
      shares.headD 0 :: assign tasks shares.tail
    else
      task.spent :: assign tasks shares

/--
The shares are one for each gap, and with them the tasks take up the whole day.
-/
structure FillsDay (tasks : List Task) (shares : List Nat) : Prop where
  length_eq : shares.length = gapCount tasks
  sum_eq : (assign tasks shares).sum = 480

/--
What the gaps of a list of tasks have become in another one.
-/
def sharesIn (tasks result : List Task) : List Nat :=
  ((tasks.zip result).filter fun entry => entry.1.isGap).map fun entry => entry.2.spent

/--
The shares of `count` gaps of which the first has `ahead` minutes more than each of the others.
-/
def firstAhead (count part ahead : Nat) : List Nat :=
  (part + ahead) :: List.replicate (count - 1) part

section Assigning

variable {tasks result : List Task} {shares : List Nat}

@[simp]
theorem assign_cons_none (id : String) (share : Nat) :
    assign (⟨id, none⟩ :: tasks) (share :: shares) = share :: assign tasks shares := rfl

@[simp]
theorem assign_cons_some (id : String) (minutes : UInt32) :
    assign (⟨id, some minutes⟩ :: tasks) shares = minutes.toNat :: assign tasks shares := rfl

@[simp]
theorem sharesIn_cons_none (id : String) (task : Task) :
    sharesIn (⟨id, none⟩ :: tasks) (task :: result) = task.spent :: sharesIn tasks result := rfl

@[simp]
theorem sharesIn_cons_some (id : String) (minutes : UInt32) (task : Task) :
    sharesIn (⟨id, some minutes⟩ :: tasks) (task :: result) = sharesIn tasks result := rfl

theorem sum_assign (h : shares.length = gapCount tasks) :
    (assign tasks shares).sum = sumGiven tasks + shares.sum := by
  induction tasks generalizing shares with
  | nil =>
    rw [gapCount_nil, List.length_eq_zero_iff] at h
    rw [h]
    rfl
  | cons task tasks ih =>
    obtain ⟨id, given⟩ := task
    cases given with
    | none =>
      rw [gapCount_cons_none] at h
      obtain ⟨share, shares, rfl⟩ := List.exists_cons_of_length_eq_add_one h
      rw [List.length_cons, Nat.add_right_cancel_iff] at h
      rw [assign_cons_none, List.sum_cons, List.sum_cons, sumGiven_cons, Task.spent_mk_none, ih h]
      omega
    | some minutes =>
      rw [gapCount_cons_some] at h
      rw [assign_cons_some, List.sum_cons, sumGiven_cons, Task.spent_mk_some, ih h]
      omega

theorem fillsDay_iff :
    FillsDay tasks shares ↔ shares.length = gapCount tasks ∧ sumGiven tasks + shares.sum = 480 := by
  constructor
  . intro h
    rw [← sum_assign h.length_eq]
    exact ⟨h.length_eq, h.sum_eq⟩
  . intro ⟨hlength, hsum⟩
    exact ⟨hlength, (sum_assign hlength).trans hsum⟩

end Assigning

section Shares

variable (first others minutes : UInt32)

theorem sharesIn_fillWith (tasks : List Task) :
    sharesIn tasks (fillWith minutes tasks) = List.replicate (gapCount tasks) minutes.toNat := by
  induction tasks with
  | nil => rfl
  | cons task tasks ih =>
    obtain ⟨id, given⟩ := task
    cases given <;> simp [ih, List.replicate_succ]

theorem assign_sharesIn_fillWith (tasks : List Task) :
    assign tasks (sharesIn tasks (fillWith minutes tasks)) =
      (fillWith minutes tasks).map Task.spent := by
  induction tasks with
  | nil => rfl
  | cons task tasks ih =>
    obtain ⟨id, given⟩ := task
    cases given <;> simp [ih]

theorem sharesIn_fillFirst {tasks : List Task} (h : gapCount tasks ≠ 0) :
    sharesIn tasks (fillFirst first others tasks) =
      first.toNat :: List.replicate (gapCount tasks - 1) others.toNat := by
  induction tasks with
  | nil => simp at h
  | cons task tasks ih =>
    obtain ⟨id, given⟩ := task
    cases given with
    | none =>
      rw [fillFirst_cons_none, sharesIn_cons_none, sharesIn_fillWith, gapCount_cons_none,
        Nat.add_sub_cancel, Task.spent_mk_some]
    | some given =>
      rw [gapCount_cons_some] at h
      rw [fillFirst_cons_some, sharesIn_cons_some, gapCount_cons_some, ih h]

theorem assign_sharesIn_fillFirst (tasks : List Task) :
    assign tasks (sharesIn tasks (fillFirst first others tasks)) =
      (fillFirst first others tasks).map Task.spent := by
  induction tasks with
  | nil => rfl
  | cons task tasks ih =>
    obtain ⟨id, given⟩ := task
    cases given with
    | none => simp [assign_sharesIn_fillWith]
    | some given => simp [ih]

theorem sharesIn_filled {tasks : List Task} (h : gapCount tasks ≠ 0) :
    sharesIn tasks (filled tasks) = firstAhead (gapCount tasks)
      ((480 - sumGiven tasks) / gapCount tasks) ((480 - sumGiven tasks) % gapCount tasks) := by
  have hle : 480 - sumGiven tasks ≤ 480 := Nat.sub_le ..
  obtain ⟨hfirst, hothers⟩ := toNat_shares hle (gapCount tasks)
  unfold filled firstAhead
  rw [sharesIn_fillFirst _ _ h, hfirst, hothers]

end Shares

section Fairness

variable {count part ahead least : Nat} {shares : List Nat}

theorem length_firstAhead (h : count ≠ 0) : (firstAhead count part ahead).length = count := by
  unfold firstAhead
  rw [List.length_cons, List.length_replicate]
  omega

theorem sum_firstAhead (h : count ≠ 0) :
    (firstAhead count part ahead).sum = ahead + count * part := by
  obtain ⟨others, rfl⟩ := Nat.exists_eq_succ_of_ne_zero h
  unfold firstAhead
  rw [List.sum_cons, List.sum_replicate_nat, Nat.succ_sub_one, Nat.succ_mul]
  omega

-- With one gap alone there is nothing that it could be ahead of.
theorem min?_firstAhead (h : ahead < count) : (firstAhead count part ahead).min? = some part := by
  rw [List.min?_eq_some_iff]
  unfold firstAhead
  constructor
  . by_cases hone : count = 1
    . have hzero : ahead = 0 := by omega
      rw [hzero]
      exact List.mem_cons_self
    . apply List.mem_cons_of_mem
      rw [List.mem_replicate]
      exact ⟨by omega, rfl⟩
  . intro share hmem
    cases hmem with
    | head => exact Nat.le_add_right ..
    | tail _ hmem => exact Nat.le_of_eq (List.eq_of_mem_replicate hmem).symm

theorem length_mul_le_sum_of_min? (h : shares.min? = some least) :
    shares.length * least ≤ shares.sum :=
  List.card_nsmul_le_sum shares least (List.min?_eq_some_iff.1 h).2

theorem fillsDay_firstAhead_iff {tasks : List Task} (hgaps : gapCount tasks ≠ 0)
    (hleft : sumGiven tasks ≤ 480) :
    FillsDay tasks (firstAhead (gapCount tasks) part ahead) ↔
      ahead + gapCount tasks * part = 480 - sumGiven tasks := by
  rw [fillsDay_iff, length_firstAhead hgaps, sum_firstAhead hgaps]
  omega

-- If all of the shares were above the even one, they would add up to more than there is.
theorem FillsDay.le_of_min? {tasks : List Task} (h : FillsDay tasks shares)
    (hgaps : gapCount tasks ≠ 0) (hleast : shares.min? = some least) :
    least ≤ (480 - sumGiven tasks) / gapCount tasks := by
  obtain ⟨hlength, hsum⟩ := fillsDay_iff.1 h
  have hle := length_mul_le_sum_of_min? hleast
  rw [hlength, Nat.mul_comm] at hle
  rw [Nat.le_div_iff_mul_le (Nat.pos_of_ne_zero hgaps)]
  omega

theorem FillsDay.exists_min? {tasks : List Task} (h : FillsDay tasks shares)
    (hgaps : gapCount tasks ≠ 0) : ∃ least, shares.min? = some least := by
  rw [← Option.isSome_iff_exists, List.isSome_min?_iff]
  intro hnil
  rw [hnil, fillsDay_iff, List.length_nil] at h
  exact hgaps h.1.symm

end Fairness

/--
Of all shares that fill the day, the ones that filling the gaps gives have the largest smallest one.
All gaps but the first have the same, the first one is ahead of them by fewer minutes than there are
gaps, and no other shares of this form fill the day.
-/
theorem fillGaps_fair {tasks result : List Task} (hgaps : gapCount tasks ≠ 0)
    (hcount : gapCount tasks < 2 ^ 32) (hfit : sumGiven tasks < 2 ^ 64)
    (h : fillGaps tasks = .ok result) :
    let chosen := sharesIn tasks result
    FillsDay tasks chosen ∧ result.map Task.spent = assign tasks chosen ∧
      (∃ most, chosen.min? = some most ∧
        ∀ shares, FillsDay tasks shares → ∃ least, shares.min? = some least ∧ least ≤ most) ∧
      ∃ part ahead, ahead < gapCount tasks ∧ chosen = firstAhead (gapCount tasks) part ahead ∧
        ∀ part' ahead', ahead' < gapCount tasks →
          FillsDay tasks (firstAhead (gapCount tasks) part' ahead') →
          part' = part ∧ ahead' = ahead := by
  intro chosen
  obtain ⟨_, heq⟩ | ⟨_, hnone, _⟩ | ⟨_, hnone, _⟩ | ⟨hleft, _, heq⟩ :=
    fillGaps_cases hcount hfit
  . rw [heq] at h
    contradiction
  . exact absurd hnone hgaps
  . exact absurd hnone hgaps
  . rw [heq] at h
    obtain rfl := Except.ok.inj h
    have hpos : 0 < gapCount tasks := Nat.pos_of_ne_zero hgaps
    have hchosen : chosen = _ := sharesIn_filled hgaps
    generalize hpart : (480 - sumGiven tasks) / gapCount tasks = part at hchosen
    generalize hahead : (480 - sumGiven tasks) % gapCount tasks = ahead at hchosen
    obtain ⟨hsum, hlt⟩ := (Nat.div_mod_unique hpos).1 ⟨hpart, hahead⟩
    refine ⟨?_, (assign_sharesIn_fillFirst _ _ tasks).symm, ⟨part, ?_, ?_⟩, part, ahead, hlt,
      hchosen, ?_⟩
    . rw [hchosen, fillsDay_firstAhead_iff hgaps hleft]
      exact hsum
    . rw [hchosen]
      exact min?_firstAhead hlt
    . intro shares hshares
      obtain ⟨least, hleast⟩ := hshares.exists_min? hgaps
      exact ⟨least, hleast, hpart ▸ hshares.le_of_min? hgaps hleast⟩
    . intro part' ahead' hlt' hfills
      rw [fillsDay_firstAhead_iff hgaps hleft] at hfills
      obtain ⟨hpart', hahead'⟩ := (Nat.div_mod_unique hpos).2 ⟨hfills, hlt'⟩
      exact ⟨hpart'.symm.trans hpart, hahead'.symm.trans hahead⟩

theorem fillGaps_fair_with_remainder :
    let tasks : List Task := [⟨"LP-1", none⟩, ⟨"LP-2", some 379⟩, ⟨"LP-3", none⟩]
    let result : List Task := [⟨"LP-1", some 51⟩, ⟨"LP-2", some 379⟩, ⟨"LP-3", some 50⟩]
    gapCount tasks ≠ 0 ∧ gapCount tasks < 2 ^ 32 ∧ sumGiven tasks < 2 ^ 64 ∧
      fillGaps tasks = .ok result ∧ FillsDay tasks [51, 50] ∧ FillsDay tasks [49, 52] ∧
      ∃ least, [49, 52].min? = some least ∧ least ≤ 50 := by
  intro tasks result
  have hgaps : gapCount tasks ≠ 0 := by decide
  have hcount : gapCount tasks < 2 ^ 32 := by decide
  have hfit : sumGiven tasks < 2 ^ 64 := by decide
  have hfill : fillGaps tasks = .ok result := by decide
  have hother : FillsDay tasks [49, 52] := ⟨by decide, by decide⟩
  obtain ⟨hchosen, _, ⟨most, hmost, hbest⟩, _⟩ := fillGaps_fair hgaps hcount hfit hfill
  have hfifty : some 50 = some most := hmost
  obtain rfl := Option.some.inj hfifty
  exact ⟨hgaps, hcount, hfit, hfill, hchosen, hother, hbest _ hother⟩

/--
The gaps of tasks that exceed the day can be filled if 64 bits do not hold the sum of their minutes.
No shares fill the day then.
-/
theorem fillGaps_unfair_of_overflow :
    let tasks : List Task := overflowing ++ [⟨"LP-3", none⟩]
    gapCount tasks ≠ 0 ∧ gapCount tasks < 2 ^ 32 ∧
      ∃ result, fillGaps tasks = .ok result ∧ ¬FillsDay tasks (sharesIn tasks result) := by
  intro tasks
  have hgaps : gapCount tasks = 1 := by
    rw [gapCount, List.countP_append, ← gapCount, gapCount_overflowing]
    rfl
  have hsum : sumGiven tasks = 2 ^ 64 + 100 := by
    rw [sumGiven_append, sumGiven_overflowing]
    rfl
  have hassigned : assignedMinutes tasks = 100 := by
    rw [assignedMinutes_eq_mod (by rw [hsum]; decide), hsum]
    rfl
  let split : Split := ⟨380, 1, by decide⟩
  have hsplit : split? tasks = some split := by
    unfold split?
    rw [hassigned, hgaps]
    rfl
  generalize hfilled : fillFirst 380 380 tasks = filled
  have hfull : assignedMinutes filled = 480 := by
    have hfill := sumGiven_fillFirst 380 380 (show gapCount tasks ≠ 0 by omega)
    rw [hfilled, hsum, hgaps] at hfill
    have hsum' : sumGiven filled = 2 ^ 64 + 480 := Nat.add_right_cancel hfill
    rw [assignedMinutes_eq_mod (by rw [hsum']; decide), hsum']
    rfl
  refine ⟨by omega, by omega, filled, ?_, ?_⟩
  . have hfirst : split.part + split.remainder = 380 := by decide
    have hothers : split.part = 380 := by decide
    rw [fillGaps_of_split hsplit, hfirst, hothers, hfilled, hfull, if_neg (by decide)]
  . rw [fillsDay_iff, hsum]
    omega

end Workday
