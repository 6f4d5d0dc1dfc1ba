import Workday.Worklog

/-!
This module contains sessions with an issue tracker, seen as the calls that are made of it. The
tracker may be any one, and may answer the same call in another way each time. A session that has
planned a number of calls makes all of them, or those up to the first one that fails.
-/

namespace Workday

inductive Call where
  | title (id : String)
  | entry (id : String) (minutes : UInt32) (started : Moment)
  deriving DecidableEq

namespace Call

def Answer : Call → Type
  | title _ => String
  | entry .. => Unit

def id : Call → String
  | title id => id
  | entry id .. => id

end Call

/--
How an issue tracker answers. An answer may depend on all calls made before.
-/
structure Answers where
  respond : List Call → (call : Call) → Except TrackerError call.Answer

abbrev Session (α : Type) := ExceptT TaskFailure (StateM (List Call)) α

def Session.after {α : Type} (session : Session α) (earlier : List Call) :
    Except TaskFailure α × List Call :=
  StateT.run (ExceptT.run session) earlier

theorem Session.after_bind_pure {α β : Type} (session : Session α) (f : α → β)
    (earlier : List Call) :
    (session >>= fun a => pure (f a) : Session β).after earlier =
      ((session.after earlier).1.map f, (session.after earlier).2) := by
  unfold Session.after
  rw [ExceptT.run_bind, StateT.run_bind]
  cases h : StateT.run (ExceptT.run session) earlier with
  | mk outcome later => cases outcome <;> rfl

namespace Answers

variable (answers : Answers)

def make (call : Call) : StateM (List Call) (Except TrackerError call.Answer) := fun earlier =>
  (answers.respond earlier call, earlier ++ [call])

/--
The desk at which an issue tracker answers. It need not be told what is about to happen.
-/
def desk : IssueDesk (StateM (List Call)) where
  tell _ := pure ()
  taskName id := answers.make (.title id)
  addWorklog id minutes started := answers.make (.entry id minutes started)

/--
Calls that are made after earlier ones, one after the other, are all answered without an error.
-/
def AcceptsAfter (earlier calls : List Call) : Prop :=
  ∀ before call after, calls = before ++ call :: after →
    ∃ answer, answers.respond (earlier ++ before) call = .ok answer

variable {answers} {earlier calls : List Call} {call : Call}

theorem acceptsAfter_nil : answers.AcceptsAfter earlier [] := by
  intro before call after h
  simp at h

theorem acceptsAfter_cons {answer : call.Answer} (hcall : answers.respond earlier call = .ok answer)
    (hcalls : answers.AcceptsAfter (earlier ++ [call]) calls) :
    answers.AcceptsAfter earlier (call :: calls) := by
  intro before other after h
  cases before with
  | nil =>
    obtain ⟨rfl, rfl⟩ := List.cons.inj h
    rw [List.append_nil]
    exact ⟨answer, hcall⟩
  | cons first before =>
    obtain ⟨rfl, rfl⟩ := List.cons.inj h
    have hanswer := hcalls before other after rfl
    rwa [List.append_assoc] at hanswer

/--
What comes of a session with planned calls. It makes all of them and each is answered, or it makes
those up to one that fails, and fails with the issue and the error of that one.
-/
inductive Makes {α : Type} (answers : Answers) (earlier planned : List Call) :
    Except TaskFailure α × List Call → Prop where
  | all (a : α) (h : answers.AcceptsAfter earlier planned) :
    Makes answers earlier planned (.ok a, earlier ++ planned)
  | upTo (before after : List Call) (call : Call) (cause : TrackerError)
    (hplanned : planned = before ++ call :: after) (hbefore : answers.AcceptsAfter earlier before)
    (hcall : answers.respond (earlier ++ before) call = .error cause) :
    Makes answers earlier planned (.error ⟨call.id, cause⟩, earlier ++ (before ++ [call]))

section Makes

variable {α β : Type}

theorem makes_nil (a : α) : answers.Makes earlier [] (.ok a, earlier) := by
  have hall : answers.Makes earlier [] (.ok a, earlier ++ []) := .all a acceptsAfter_nil
  rwa [List.append_nil] at hall

theorem Makes.cons {result : Except TaskFailure α × List Call} {answer : call.Answer}
    (hcall : answers.respond earlier call = .ok answer)
    (h : answers.Makes (earlier ++ [call]) calls result) :
    answers.Makes earlier (call :: calls) result := by
  cases h with
  | all a hcalls =>
    rw [List.append_assoc]
    exact .all a (acceptsAfter_cons hcall hcalls)
  | upTo before after last cause hplanned hbefore hlast =>
    rw [List.append_assoc] at hlast ⊢
    refine .upTo (call :: before) after last cause ?_ (acceptsAfter_cons hcall hbefore) hlast
    rw [hplanned, List.cons_append]

theorem makes_cons_of_error {cause : TrackerError}
    (hcall : answers.respond earlier call = .error cause) :
    answers.Makes earlier (call :: calls)
      ((.error ⟨call.id, cause⟩ : Except TaskFailure α), earlier ++ [call]) := by
  refine .upTo [] calls call cause rfl acceptsAfter_nil ?_
  rwa [List.append_nil]

theorem Makes.map {result : Except TaskFailure α × List Call} (f : α → β)
    (h : answers.Makes earlier calls result) :
    answers.Makes earlier calls (result.1.map f, result.2) := by
  cases h with
  | all a hcalls => exact .all (f a) hcalls
  | upTo before after last cause hplanned hbefore hlast =>
    exact .upTo before after last cause hplanned hbefore hlast

theorem Makes.isPrefix {result : Except TaskFailure α × List Call}
    (h : answers.Makes [] calls result) : result.2 <+: calls := by
  cases h with
  | all => exact List.prefix_refl _
  | upTo before after call _ hplanned =>
    rw [hplanned]
    exact ⟨after, by simp⟩

theorem Makes.exists_ok {result : Except TaskFailure α × List Call}
    (h : answers.Makes earlier calls result) (hcalls : answers.AcceptsAfter earlier calls) :
    ∃ a, result.1 = .ok a := by
  cases h with
  | all a => exact ⟨a, rfl⟩
  | upTo before after call cause hplanned _ hcall =>
    obtain ⟨answer, hanswer⟩ := hcalls before call after hplanned
    rw [hcall] at hanswer
    contradiction

theorem Makes.of_ok {result : Except TaskFailure α × List Call} {a : α}
    (h : answers.Makes earlier calls result) (hok : result.1 = .ok a) :
    result.2 = earlier ++ calls ∧ answers.AcceptsAfter earlier calls := by
  cases h with
  | all _ hcalls => exact ⟨rfl, hcalls⟩
  | upTo => contradiction

theorem Makes.of_error {result : Except TaskFailure α × List Call} {failure : TaskFailure}
    (h : answers.Makes earlier calls result) (herror : result.1 = .error failure) :
    ∃ before call after,
      calls = before ++ call :: after ∧ result.2 = earlier ++ (before ++ [call]) ∧
      answers.AcceptsAfter earlier before ∧ failure.id = call.id ∧
      answers.respond (earlier ++ before) call = .error failure.cause := by
  cases h with
  | all => contradiction
  | upTo before after call cause hplanned hbefore hcall =>
    cases herror
    exact ⟨before, call, after, hplanned, rfl, hbefore, rfl, hcall⟩

end Makes

section Step

variable {β : Type} {f : call.Answer → Session β} {id : String}

theorem after_failWith_bind_of_ok {answer : call.Answer}
    (h : answers.respond earlier call = .ok answer) :
    (IssueDesk.failWith id (answers.make call) >>= f : Session β).after earlier =
      (f answer).after (earlier ++ [call]) := by
  unfold Session.after IssueDesk.failWith make
  simp only [ExceptT.run_bind, ExceptT.run_mk, StateT.run_bind]
  simp only [StateT.run, h]
  rfl

theorem after_failWith_bind_of_error {cause : TrackerError}
    (h : answers.respond earlier call = .error cause) :
    (IssueDesk.failWith id (answers.make call) >>= f : Session β).after earlier =
      (.error ⟨id, cause⟩, earlier ++ [call]) := by
  unfold Session.after IssueDesk.failWith make
  simp only [ExceptT.run_bind, ExceptT.run_mk, StateT.run_bind]
  simp only [StateT.run, h]
  rfl

end Step

/--
A tracker whose titles tell how many calls came before, and which fails after a number of calls.
-/
def tiringAnswers (limit : Nat) : Answers where
  respond
    | earlier, .title id =>
      if earlier.length < limit then .ok ("Title " ++ toString earlier.length)
      else .error (.nameNotFound id)
    | earlier, .entry .. =>
      if earlier.length < limit then .ok () else .error (.commandFailed 1 "tired")

end Answers

end Workday
