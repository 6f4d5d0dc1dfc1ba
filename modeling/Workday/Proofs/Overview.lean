import Workday.Overview
import Workday.Proofs.Allocation
import Workday.Proofs.Clock

/-!
This module contains that the overview of a day adds up. The time of a row is read as the minutes of
its task, and the time of the last row as the sum of these.
-/

namespace Workday.Overview

variable (names : Names) (tasks : List Task)

theorem time_entry (task : Task) : (entry names task).time = clock task.spent := by
  unfold entry Task.spent
  rw [TimeSpan.clock_ofMinutes]

theorem map_time_entries :
    ((entries names tasks).map fun row => clockMinutes? row.time) = (tasks.map Task.spent).map some := by
  unfold entries
  rw [List.map_map, List.map_map]
  apply List.map_congr_left
  intro task _
  rw [Function.comp_apply, time_entry, clockMinutes?_clock]
  rfl

theorem sum_spent_lt (h : tasks.length < 2 ^ 32) : (tasks.map Task.spent).sum < 2 ^ 64 := by
  rw [← sumGiven_eq_sum]
  exact sumGiven_lt (Nat.le_of_lt h)

theorem getLast?_cells (h : (tasks.map Task.spent).sum < 2 ^ 64) :
    (cells names tasks).getLast? = some ["", "TOTAL", clock (tasks.map Task.spent).sum] := by
  rw [← sumGiven_eq_sum] at h ⊢
  unfold cells
  rw [List.getLast?_concat, toNat_totalMinutes_of_lt h]

/--
Every time span shows as its whole minutes do, a negative one as none, and every number of minutes can
be read back from how it shows. So the times in the rows of the overview are read as the minutes of
the tasks, and their sum, which fits in 64 bits, is what the time in the last row is read as.
-/
theorem times_add_up :
    (∀ span : TimeSpan, span.clock =
      clock (if span.nanoseconds < 0 then 0 else span.nanoseconds.toNat / 60000000000)) ∧
    (∀ minutes : Nat, clockMinutes? (clock minutes) = some minutes) ∧
    ∀ (names : Names) (tasks : List Task), tasks.length < 2 ^ 32 →
      ((entries names tasks).map fun row => clockMinutes? row.time) =
          (tasks.map Task.spent).map some ∧
        ∃ total, (cells names tasks).getLast? = some ["", "TOTAL", total] ∧
          clockMinutes? total = some (tasks.map Task.spent).sum ∧
          (tasks.map Task.spent).sum < 2 ^ 64 := by
  refine ⟨?_, clockMinutes?_clock, ?_⟩
  . intro span
    rw [TimeSpan.clock_eq]
    split
    . next h => rw [Int.toNat_of_nonpos (Int.le_of_lt h), Nat.zero_div]
    . rfl
  . intro names tasks hlength
    have hfit := sum_spent_lt tasks hlength
    exact ⟨map_time_entries names tasks, _, getLast?_cells names tasks hfit, clockMinutes?_clock _,
      hfit⟩

theorem times_add_up_with_gap :
    let tasks : List Task := [⟨"LP-1", some 4294967295⟩, ⟨"LP-2", none⟩, ⟨"LP-1", some 61⟩]
    tasks.length < 2 ^ 32 ∧
      ((entries [("LP-1", "Title")] tasks).map fun row => clockMinutes? row.time) =
        [some 4294967295, some 0, some 61] ∧
      ∃ total, (cells [("LP-1", "Title")] tasks).getLast? = some ["", "TOTAL", total] ∧
        clockMinutes? total = some 4294967356 := by
  intro tasks
  have hlength : tasks.length < 2 ^ 32 := by decide
  obtain ⟨hrows, total, hlast, htotal, _⟩ := times_add_up.2.2 [("LP-1", "Title")] tasks hlength
  exact ⟨hlength, hrows, total, hlast, htotal⟩

end Workday.Overview
