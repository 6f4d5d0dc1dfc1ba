import Workday.Proofs.Run
import Workday.Tracker.Client

/-!
This module contains errands, the commands for the tracker's client together with what each of them
has to bring. Of a list of errands, those up to and including the first one that fails are attempted.
A run does errands if the commands that it executes are those of the attempted ones. One run after
another does the errands of both.
-/

namespace Workday

/--
A command for the tracker's client. Every command has to end with the status zero, and one that
wants a title has to print one.
-/
structure Errand where
  command : Command
  wantsTitle : Bool
  deriving Repr, DecidableEq

def Command.logsWork (command : Command) : Bool :=
  command.arguments.take 3 == ["issue", "worklog", "add"]

namespace Errand

def view (settings : JiraSettings) (id : String) : Errand :=
  ⟨Client.viewCommand settings id, true⟩

def add (settings : JiraSettings) (id : String) (minutes : UInt32) (started : Moment) : Errand :=
  ⟨Client.addCommand settings id minutes started, false⟩

@[simp]
theorem logsWork_view (settings : JiraSettings) (id : String) :
    (view settings id).command.logsWork = false := rfl

@[simp]
theorem logsWork_add (settings : JiraSettings) (id : String) (minutes : UInt32) (started : Moment) :
    (add settings id minutes started).command.logsWork = true := rfl

def fails (errand : Errand) : Response → Bool
  | .unstartable _ => true
  | .exited status stdout _ =>
    status != 0 || (errand.wantsTitle && (Title.find? stdout).isNone)

/--
The errands up to and including the first one that fails. `earlier` are the commands executed before
them, the latest of them first.
-/
def attempted (tracker : Tracker) (earlier : List Command) : List Errand → List Errand
  | [] => []
  | errand :: errands =>
    if errand.fails (tracker.respond earlier errand.command) then
      [errand]
    else
      errand :: attempted tracker (errand.command :: earlier) errands

def allSucceed (tracker : Tracker) (earlier : List Command) : List Errand → Bool
  | [] => true
  | errand :: errands =>
    !errand.fails (tracker.respond earlier errand.command) &&
      allSucceed tracker (errand.command :: earlier) errands

/--
All commands executed after errands, the latest of them first.
-/
def executed (earlier : List Command) (errands : List Errand) : List Command :=
  (errands.map command).reverse ++ earlier

@[simp]
theorem executed_nil (earlier : List Command) : executed earlier [] = earlier := rfl

theorem executed_cons (earlier : List Command) (errand : Errand) (errands : List Errand) :
    executed earlier (errand :: errands) = executed (errand.command :: earlier) errands := by
  simp [executed]

theorem executed_append (earlier : List Command) (xs ys : List Errand) :
    executed earlier (xs ++ ys) = executed (executed earlier xs) ys := by
  simp [executed]

variable {tracker : Tracker} {earlier : List Command}

theorem allSucceed_append (xs ys : List Errand) :
    allSucceed tracker earlier (xs ++ ys) =
      (allSucceed tracker earlier xs && allSucceed tracker (executed earlier xs) ys) := by
  induction xs generalizing earlier with
  | nil => simp [allSucceed]
  | cons errand xs ih =>
    rw [List.cons_append, executed_cons]
    simp only [allSucceed]
    rw [ih, Bool.and_assoc]

theorem attempted_singleton (errand : Errand) :
    attempted tracker earlier [errand] = [errand] := by
  simp [attempted]

theorem attempted_append_of_succeed {xs : List Errand} (h : allSucceed tracker earlier xs = true)
    (ys : List Errand) :
    attempted tracker earlier (xs ++ ys) = xs ++ attempted tracker (executed earlier xs) ys := by
  induction xs generalizing earlier with
  | nil => rfl
  | cons errand xs ih =>
    simp only [allSucceed, Bool.and_eq_true, Bool.not_eq_true'] at h
    rw [List.cons_append, executed_cons]
    simp only [attempted, h.1, Bool.false_eq_true, ↓reduceIte]
    rw [ih h.2]
    rfl

theorem attempted_of_succeed {xs : List Errand} (h : allSucceed tracker earlier xs = true) :
    attempted tracker earlier xs = xs := by
  have := attempted_append_of_succeed h []
  simpa [attempted] using this

theorem attempted_append_of_fail {xs : List Errand} (h : allSucceed tracker earlier xs = false)
    (ys : List Errand) : attempted tracker earlier (xs ++ ys) = attempted tracker earlier xs := by
  -- What a later errand meets depends on the commands before it, so the induction is for all of them.
  induction xs generalizing earlier with
  | nil => simp [allSucceed] at h
  | cons errand xs ih =>
    rw [List.cons_append]
    simp only [attempted]
    cases hfails : errand.fails (tracker.respond earlier errand.command) with
    | true => rfl
    | false =>
      simp only [allSucceed, hfails, Bool.not_false, Bool.true_and] at h
      simp [ih h]

theorem attempted_isPrefix (errands : List Errand) :
    attempted tracker earlier errands <+: errands := by
  induction errands generalizing earlier with
  | nil => exact List.prefix_refl _
  | cons errand errands ih =>
    simp only [attempted]
    split
    . simp
    . rw [List.prefix_cons_inj]
      apply ih

end Errand

namespace Run

open Errand

variable {ε δ α β : Type} {tracker : Tracker}

/--
A run that goes on from a trace does errands if it executes the commands of those that are
attempted. It fails if one of them does. If all of them succeed, it `completes` or not.
-/
structure Does (tracker : Tracker) (run : Run ε α) (trace : Trace) (errands : List Errand)
    (completes : Bool) : Prop where
  commands_eq : (run.after trace).2.commands =
    executed trace.commands (attempted tracker trace.commands errands)
  isOk_eq : (run.after trace).1.isOk = (allSucceed tracker trace.commands errands && completes)

theorem does_nil_iff {run : Run ε α} {trace : Trace} {completes : Bool} :
    Does tracker run trace [] completes ↔
      (run.after trace).2.commands = trace.commands ∧ (run.after trace).1.isOk = completes := by
  constructor
  . intro h
    exact ⟨h.commands_eq, h.isOk_eq⟩
  . intro h
    exact ⟨h.1, h.2⟩

theorem Does.commands_of_ok {run : Run ε α} {trace later : Trace} {errands : List Errand}
    {completes : Bool} (hrun : Does tracker run trace errands completes) {a : α}
    (h : run.after trace = (.ok a, later)) :
    later.commands = executed trace.commands errands := by
  obtain ⟨hcommands, hok⟩ := hrun
  rw [h] at hcommands hok
  have hsucceed := (Bool.and_eq_true_iff.1 hok.symm).1
  rw [attempted_of_succeed hsucceed] at hcommands
  exact hcommands

theorem does_of_onlyTells {run : Run ε α} {outcome : Except ε α} (h : run.OnlyTells outcome)
    (trace : Trace) : Does tracker run trace [] outcome.isOk := by
  obtain ⟨houtcome, hcommands⟩ := h trace
  rw [does_nil_iff]
  exact ⟨hcommands, by rw [houtcome]⟩

theorem Does.mapError {run : Run ε α} {trace : Trace} {errands : List Errand} {completes : Bool}
    (h : Does tracker run trace errands completes) (f : ε → δ) :
    Does tracker (mapError f run) trace errands completes := by
  constructor
  . rw [after_mapError]
    exact h.commands_eq
  . rw [after_mapError, ← h.isOk_eq]
    cases (run.after trace).1 <;> rfl

theorem Does.bind {run : Run ε α} {f : α → Run ε β} {trace : Trace} {xs ys : List Errand}
    {completes : Bool} (hrun : Does tracker run trace xs true)
    (hf : ∀ a later, run.after trace = (.ok a, later) → Does tracker (f a) later ys completes) :
    Does tracker (run >>= f) trace (xs ++ ys) completes := by
  obtain ⟨hcommands, hok⟩ := hrun
  cases h : run.after trace with
  | mk outcome later =>
    rw [h] at hcommands hok
    rw [Bool.and_true] at hok
    cases outcome with
    | ok a =>
      -- The second run starts where all errands of the first one have been executed.
      have hsucceed : allSucceed tracker trace.commands xs = true := hok.symm
      rw [attempted_of_succeed hsucceed] at hcommands
      obtain ⟨hfcommands, hfok⟩ := hf a later h
      constructor
      . rw [after_bind_of_ok h, hfcommands, hcommands, attempted_append_of_succeed hsucceed,
          executed_append]
      . rw [after_bind_of_ok h, hfok, hcommands, allSucceed_append, hsucceed, Bool.true_and]
    | error error =>
      -- The first run ended with the errand that failed, and the second one never starts.
      have hfail : allSucceed tracker trace.commands xs = false := hok.symm
      constructor
      . rw [after_bind_of_error h, attempted_append_of_fail hfail]
        exact hcommands
      . rw [after_bind_of_error h, allSucceed_append, hfail]
        rfl

theorem Does.bind_cons {run : Run ε α} {f : α → Run ε β} {trace : Trace} {errand : Errand}
    {errands : List Errand} {completes : Bool} (hrun : Does tracker run trace [errand] true)
    (hf : ∀ a later, run.after trace = (.ok a, later) → Does tracker (f a) later errands completes) :
    Does tracker (run >>= f) trace (errand :: errands) completes :=
  hrun.bind hf

theorem Does.bind_pure {run : Run ε α} {trace : Trace} {errands : List Errand}
    (hrun : Does tracker run trace errands true) (f : α → β) :
    Does tracker (run >>= fun a => pure (f a)) trace errands true := by
  rw [← List.append_nil errands]
  apply hrun.bind
  intro a later _
  rw [does_nil_iff]
  exact ⟨rfl, rfl⟩

theorem does_bind_of_ok {run : Run ε α} {f : α → Run ε β} {trace later : Trace} {a : α}
    {errands : List Errand} {completes : Bool} (h : run.after trace = (.ok a, later))
    (hcommands : later.commands = trace.commands)
    (hf : Does tracker (f a) later errands completes) :
    Does tracker (run >>= f) trace errands completes := by
  constructor
  . rw [after_bind_of_ok h, ← hcommands]
    exact hf.commands_eq
  . rw [after_bind_of_ok h, ← hcommands]
    exact hf.isOk_eq

theorem does_bind_of_onlyTells {run : Run ε α} {f : α → Run ε β} {trace : Trace} {a : α}
    {errands : List Errand} {completes : Bool} (h : run.OnlyTells (.ok a))
    (hf : ∀ later, Does tracker (f a) later errands completes) :
    Does tracker (run >>= f) trace errands completes := by
  obtain ⟨houtcome, hcommands⟩ := h trace
  have hafter : run.after trace = (.ok a, (run.after trace).2) := by rw [← houtcome]
  apply does_bind_of_ok hafter hcommands
  apply hf

theorem Does.bind_of_stops {run : Run ε α} {trace : Trace} {errands : List Errand}
    (hrun : Does tracker run trace errands false) (f : α → Run ε β) :
    Does tracker (run >>= f) trace errands false := by
  obtain ⟨hcommands, hok⟩ := hrun
  cases h : run.after trace with
  | mk outcome later =>
    rw [h] at hcommands hok
    rw [Bool.and_false] at hok
    cases outcome with
    | ok => simp [Except.isOk, Except.toBool] at hok
    | error =>
      constructor
      . rw [after_bind_of_error h]
        exact hcommands
      . rw [after_bind_of_error h, Bool.and_false]
        rfl

end Run

namespace Client

open Errand Run

variable (settings : JiraSettings) (tracker : Tracker)

def extend (command : Command) (trace : Trace) : Trace where
  commands := command :: trace.commands
  events := .notice ⟨.tracker, .debug, false,
    "Running " ++ command.program ++ " " ++ " ".intercalate command.arguments⟩ :: trace.events

theorem after_run (command : Command) (trace : Trace) :
    (run tracker command).after trace =
      (printed command.program (tracker.respond trace.commands command), extend command trace) :=
  rfl

theorem after_taskName (id : String) (trace : Trace) :
    (taskName settings tracker id).after trace =
      ((printed (viewCommand settings id).program
        (tracker.respond trace.commands (viewCommand settings id))).bind (titleIn id),
        extend (viewCommand settings id) trace) := by
  unfold taskName
  rw [after_bind, after_run]
  cases printed _ _ <;> rfl

theorem after_addWorklog (id : String) (minutes : UInt32) (started : Moment) (trace : Trace) :
    (addWorklog settings tracker id minutes started).after trace =
      ((printed (addCommand settings id minutes started).program
        (tracker.respond trace.commands (addCommand settings id minutes started))).map fun _ => (),
        extend (addCommand settings id minutes started) trace) := by
  unfold addWorklog
  rw [discard_eq_bind, after_bind, after_run]
  cases printed _ _ <;> rfl

theorem isOk_printed (program : String) (response : Response) (command : Command) :
    (printed program response).isOk = !(Errand.fails ⟨command, false⟩ response) := by
  cases response with
  | unstartable => rfl
  | exited status stdout stderr =>
    simp only [printed, Errand.fails, Bool.false_and, Bool.or_false]
    split
    . next h => simp [h, Except.isOk, Except.toBool]
    . next h => simp [h, Except.isOk, Except.toBool]

theorem isOk_printed_titleIn (program id : String) (response : Response) (command : Command) :
    ((printed program response).bind (titleIn id)).isOk =
      !(Errand.fails ⟨command, true⟩ response) := by
  cases response with
  | unstartable => rfl
  | exited status stdout stderr =>
    simp only [printed, Errand.fails, Bool.true_and]
    split
    . next h =>
      simp only [h, Except.bind, titleIn]
      cases Title.find? stdout <;> rfl
    . next h => simp [h, Except.bind, Except.isOk, Except.toBool]

theorem does_taskName (id : String) (trace : Trace) :
    Does tracker (taskName settings tracker id) trace [view settings id] true := by
  constructor
  . rw [after_taskName, attempted_singleton]
    rfl
  . rw [after_taskName, isOk_printed_titleIn _ _ _ (viewCommand settings id)]
    simp [allSucceed, view]

theorem does_addWorklog (id : String) (minutes : UInt32) (started : Moment) (trace : Trace) :
    Does tracker (addWorklog settings tracker id minutes started) trace
      [add settings id minutes started] true := by
  constructor
  . rw [after_addWorklog, attempted_singleton]
    rfl
  . have hisOk := isOk_printed (addCommand settings id minutes started).program
      (tracker.respond trace.commands (addCommand settings id minutes started))
      (addCommand settings id minutes started)
    rw [after_addWorklog]
    simp only [allSucceed, add, Bool.and_true]
    rw [← hisOk]
    cases printed _ _ <;> rfl

theorem extends_run (command : Command) : (run tracker command).Extends := by
  unfold run
  apply (extends_emit _).bind
  intro _
  apply (extends_execute tracker command).bind
  intro response
  apply extends_liftExcept

theorem extends_addWorklog (id : String) (minutes : UInt32) (started : Moment) :
    (addWorklog settings tracker id minutes started).Extends := by
  unfold addWorklog
  rw [discard_eq_bind]
  apply Extends.bind
  . apply extends_run
  . intro _
    apply extends_pure

end Client

end Workday
