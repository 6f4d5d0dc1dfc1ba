import Workday.Task

/-!
This module contains the allocation of the workday: the gaps of a list of tasks share what the
other tasks leave of the day. The day has to come out at exactly its budget, so a list that exceeds
it fails, and so does a list that falls short of it and has no gap. The gaps are counted in 32 bits,
and if their number is zero in these, there is nothing to divide the rest of the day by.
-/

namespace Workday

def dayBudget : Int := 480

/--
How a list of tasks misses the budget of the day, with the budget less what is assigned.
-/
inductive Imbalance where
  /-- The assigned minutes exceed the budget, `left` is negative. -/
  | overtime (left : Int)
  /-- Nothing takes up the rest of the day, `left` is positive. -/
  | undertime (left : Int)
  deriving Repr, BEq, DecidableEq, Inhabited

namespace Imbalance

def left : Imbalance → Int
  | overtime left => left
  | undertime left => left

def message : Imbalance → String
  | overtime left => "overtime, " ++ toString left ++ " minutes left"
  | undertime left => "undertime, " ++ toString left ++ " minutes left"

end Imbalance

inductive Unfilled where
  | unbalanced (imbalance : Imbalance)
  /-- The program ends where it would divide by zero. -/
  | aborted
  deriving Repr, BEq, DecidableEq, Inhabited

/--
The assigned minutes of all tasks as a signed 64 bit number, which stays at its largest value from
there on.
-/
def assignedMinutes (tasks : List Task) : Int :=
  min ((totalMinutes tasks).toNat : Int) 9223372036854775807

/--
What is left of the day and how many gaps share it, as 32 bit numbers.
-/
structure Split where
  left : UInt32
  count : UInt32
  count_ne_zero : count ≠ 0
  deriving Repr, BEq, DecidableEq

namespace Split

/--
Split what is left of the day between gaps. There is no split of less than nothing, and none between
gaps whose number is zero in 32 bits.
-/
def of? (left : Int) (gaps : Nat) : Option Split :=
  let count := UInt32.ofNat gaps
  if h : left < 0 ∨ count = 0 then
    none
  else
    some ⟨UInt32.ofNat left.toNat, count, fun hzero => h (.inr hzero)⟩

/--
The share of every gap but the first.
-/
def part (split : Split) : UInt32 := split.left / split.count

/--
What the first gap gets on top of its share, so that no minute is lost.
-/
def remainder (split : Split) : UInt32 := split.left % split.count

def remark (split : Split) : String :=
  "Splitting " ++ toString split.left.toNat ++ " minutes between " ++ toString split.count.toNat ++
    " gaps: " ++ toString split.part.toNat ++ " each, +" ++ toString split.remainder.toNat ++
    " for the first"

end Split

def fillWith (minutes : UInt32) (tasks : List Task) : List Task :=
  tasks.map fun task => if task.isGap then { task with minutes := some minutes } else task

def fillFirst (first others : UInt32) : List Task → List Task
  | [] => []
  | task :: tasks =>
    if task.isGap then
      { task with minutes := some first } :: fillWith others tasks
    else
      task :: fillFirst first others tasks

def gapCount (tasks : List Task) : Nat :=
  tasks.countP Task.isGap

def split? (tasks : List Task) : Option Split :=
  Split.of? (dayBudget - assignedMinutes tasks) (gapCount tasks)

/--
Assign minutes to every gap so that the day adds up to its budget. Minutes that were given are
never touched.
-/
def fillGaps (tasks : List Task) : Except Unfilled (List Task) :=
  let left := dayBudget - assignedMinutes tasks
  if left < 0 then
    .error (.unbalanced (.overtime left))
  else if gapCount tasks = 0 then
    if left = 0 then .ok tasks else .error (.unbalanced (.undertime left))
  else
    match split? tasks with
    | none => .error .aborted
    | some split =>
      let filled := fillFirst (split.part + split.remainder) split.part tasks
      let total := assignedMinutes filled
      if total < dayBudget then
        .error (.unbalanced (.undertime (dayBudget - total)))
      else
        .ok filled

end Workday
