/-!
This module contains the entries of a workday: a task with the minutes spent on it, or a gap, a
task whose minutes are still open.
-/

namespace Workday

/--
A task of a workday. A gap is a task without `minutes`.
-/
structure Task where
  /-- The key of the task in the issue tracker, such as `LP-622`. -/
  id : String
  minutes : Option UInt32
  deriving Repr, BEq, DecidableEq, Inhabited

namespace Task

def isGap (task : Task) : Bool :=
  task.minutes.isNone

/--
The minutes of a task, zero for a gap.
-/
def spent (task : Task) : Nat :=
  (task.minutes.getD 0).toNat

@[simp]
theorem isGap_mk_none (id : String) : isGap ⟨id, none⟩ = true := rfl

@[simp]
theorem isGap_mk_some (id : String) (m : UInt32) : isGap ⟨id, some m⟩ = false := rfl

@[simp]
theorem spent_mk_none (id : String) : spent ⟨id, none⟩ = 0 := rfl

@[simp]
theorem spent_mk_some (id : String) (m : UInt32) : spent ⟨id, some m⟩ = m.toNat := rfl

end Task

/--
The minutes of all tasks together, gaps counting zero. They are counted in 64 bits, and start again
from zero above the largest such number.
-/
def totalMinutes (tasks : List Task) : UInt64 :=
  tasks.foldr (fun task minutes => (task.minutes.getD 0).toUInt64 + minutes) 0

@[simp]
theorem totalMinutes_nil : totalMinutes [] = 0 := rfl

@[simp]
theorem totalMinutes_cons (task : Task) (tasks : List Task) :
    totalMinutes (task :: tasks) = (task.minutes.getD 0).toUInt64 + totalMinutes tasks := rfl

end Workday
