import Workday.Conclusion

/-!
This module contains the laws of runs. A run is looked at as a function of the trace that it goes on
from. A run made of two goes on with the second one only if the first did not fail, and no run loses
anything of the trace that it goes on from.
-/

namespace Workday

namespace Trace

/--
One trace lies before another one if nothing of it is lost there.
-/
def IsBefore (earlier later : Trace) : Prop :=
  earlier.commands <:+ later.commands ∧ earlier.events <:+ later.events

theorem IsBefore.refl (trace : Trace) : trace.IsBefore trace :=
  ⟨List.suffix_refl _, List.suffix_refl _⟩

theorem IsBefore.trans {a b c : Trace} (hab : a.IsBefore b) (hbc : b.IsBefore c) :
    a.IsBefore c :=
  ⟨hab.1.trans hbc.1, hab.2.trans hbc.2⟩

end Trace

namespace Run

variable {ε δ α β : Type}

@[simp]
theorem mapError_ok (f : ε → δ) (a : α) : (Except.ok a : Except ε α).mapError f = .ok a := rfl

@[simp]
theorem mapError_error (f : ε → δ) (error : ε) :
    (Except.error error : Except ε α).mapError f = .error (f error) := rfl

@[simp]
theorem mapError_eq_ok_iff {f : ε → δ} {outcome : Except ε α} {a : α} :
    outcome.mapError f = .ok a ↔ outcome = .ok a := by
  cases outcome <;> simp

def after (run : Run ε α) (trace : Trace) : Except ε α × Trace :=
  StateT.run (ExceptT.run run) trace

theorem start_eq_after (run : Run ε α) : run.start = run.after Trace.empty := rfl

@[simp]
theorem after_pure (a : α) (trace : Trace) : (pure a : Run ε α).after trace = (.ok a, trace) := rfl

@[simp]
theorem after_throw (error : ε) (trace : Trace) :
    (throw error : Run ε α).after trace = (.error error, trace) := rfl

theorem after_bind (run : Run ε α) (f : α → Run ε β) (trace : Trace) :
    (run >>= f).after trace =
      match run.after trace with
      | (.ok a, later) => (f a).after later
      | (.error error, later) => (.error error, later) := by
  unfold after ExceptT.run StateT.run
  simp only [bind, ExceptT.bind, ExceptT.mk, StateT.bind]
  cases run trace with
  | mk outcome later => cases outcome <;> rfl

theorem after_bind_of_ok {run : Run ε α} {trace later : Trace} {a : α}
    (h : run.after trace = (.ok a, later)) (f : α → Run ε β) :
    (run >>= f).after trace = (f a).after later := by
  rw [after_bind, h]

theorem after_bind_of_error {run : Run ε α} {trace later : Trace} {error : ε}
    (h : run.after trace = (.error error, later)) (f : α → Run ε β) :
    (run >>= f).after trace = (.error error, later) := by
  rw [after_bind, h]

theorem ok_of_after_bind {run : Run ε α} {f : α → Run ε β} {trace last : Trace} {b : β}
    (h : (run >>= f).after trace = (.ok b, last)) :
    ∃ a later, run.after trace = (.ok a, later) ∧ (f a).after later = (.ok b, last) := by
  rw [after_bind] at h
  cases hrun : run.after trace with
  | mk outcome later =>
    rw [hrun] at h
    cases outcome with
    | ok a => exact ⟨a, later, rfl, h⟩
    | error => simp at h

@[simp]
theorem after_emit (event : Event) (trace : Trace) :
    (emit event : Run ε Unit).after trace = (.ok (), trace.record event) := rfl

@[simp]
theorem after_say (origin : Origin) (kind : Kind) (text : String) (trace : Trace) :
    (say origin kind text : Run ε Unit).after trace =
      (.ok (), trace.record (.notice ⟨origin, kind, false, text⟩)) := rfl

@[simp]
theorem after_sayFramed (origin : Origin) (kind : Kind) (text : String) (trace : Trace) :
    (sayFramed origin kind text : Run ε Unit).after trace =
      (.ok (), trace.record (.notice ⟨origin, kind, true, text⟩)) := rfl

@[simp]
theorem after_execute (tracker : Tracker) (command : Command) (trace : Trace) :
    (execute tracker command : Run ε Response).after trace =
      (.ok (tracker.respond trace.commands command),
        { trace with commands := command :: trace.commands }) := rfl

@[simp]
theorem after_liftExcept (outcome : Except ε α) (trace : Trace) :
    (liftExcept outcome).after trace = (outcome, trace) := rfl

@[simp]
theorem after_mapError (f : ε → δ) (run : Run ε α) (trace : Trace) :
    (mapError f run).after trace = ((run.after trace).1.mapError f, (run.after trace).2) := rfl

theorem discard_eq_bind (run : Run ε α) : discard run = run >>= fun _ => pure () := by
  unfold discard
  rw [map_const, Function.comp_apply, map_eq_pure_bind]

/--
A run extends traces if it loses nothing of the one that it goes on from.
-/
def Extends (run : Run ε α) : Prop :=
  ∀ trace : Trace, trace.IsBefore (run.after trace).2

theorem extends_pure (a : α) : (pure a : Run ε α).Extends := by
  intro trace
  apply Trace.IsBefore.refl

theorem extends_liftExcept (outcome : Except ε α) : (liftExcept outcome).Extends := by
  intro trace
  apply Trace.IsBefore.refl

theorem extends_emit (event : Event) : (emit event : Run ε Unit).Extends := by
  intro trace
  exact ⟨List.suffix_refl _, List.suffix_cons _ _⟩

theorem extends_execute (tracker : Tracker) (command : Command) :
    (execute tracker command : Run ε Response).Extends := by
  intro trace
  exact ⟨List.suffix_cons _ _, List.suffix_refl _⟩

theorem Extends.mapError {run : Run ε α} (h : run.Extends) (f : ε → δ) :
    (mapError f run).Extends := by
  intro trace
  rw [after_mapError]
  apply h

theorem Extends.bind {run : Run ε α} {f : α → Run ε β} (hrun : run.Extends)
    (hf : ∀ a, (f a).Extends) : (run >>= f).Extends := by
  intro trace
  have hbefore := hrun trace
  rw [after_bind]
  cases h : run.after trace with
  | mk outcome later =>
    rw [h] at hbefore
    cases outcome with
    | ok a => exact hbefore.trans (hf a later)
    | error => exact hbefore

/--
A run only tells something if it executes no command and comes out the same after every trace.
-/
def OnlyTells (run : Run ε α) (outcome : Except ε α) : Prop :=
  ∀ trace : Trace, (run.after trace).1 = outcome ∧ (run.after trace).2.commands = trace.commands

theorem OnlyTells.eq_of_after {run : Run ε α} {outcome result : Except ε α} {trace later : Trace}
    (hrun : run.OnlyTells outcome) (h : run.after trace = (result, later)) : outcome = result := by
  rw [← (hrun trace).1, h]

theorem onlyTells_pure (a : α) : (pure a : Run ε α).OnlyTells (.ok a) := by
  intro trace
  exact ⟨rfl, rfl⟩

theorem onlyTells_liftExcept (outcome : Except ε α) : (liftExcept outcome).OnlyTells outcome := by
  intro trace
  exact ⟨rfl, rfl⟩

theorem onlyTells_emit (event : Event) : (emit event : Run ε Unit).OnlyTells (.ok ()) := by
  intro trace
  exact ⟨rfl, rfl⟩

theorem OnlyTells.bind {run : Run ε α} {f : α → Run ε β} {a : α} {outcome : Except ε β}
    (hrun : run.OnlyTells (.ok a)) (hf : (f a).OnlyTells outcome) :
    (run >>= f).OnlyTells outcome := by
  intro trace
  obtain ⟨houtcome, hcommands⟩ := hrun trace
  have hafter : run.after trace = (.ok a, (run.after trace).2) := by rw [← houtcome]
  rw [after_bind_of_ok hafter, ← hcommands]
  apply hf

theorem OnlyTells.bind_of_error {run : Run ε α} {error : ε} (hrun : run.OnlyTells (.error error))
    (f : α → Run ε β) : (run >>= f).OnlyTells (.error error) := by
  intro trace
  obtain ⟨houtcome, hcommands⟩ := hrun trace
  have hafter : run.after trace = (.error error, (run.after trace).2) := by rw [← houtcome]
  rw [after_bind_of_error hafter]
  exact ⟨rfl, hcommands⟩

end Run

end Workday
