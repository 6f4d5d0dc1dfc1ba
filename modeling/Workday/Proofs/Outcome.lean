import Workday.Program
import Workday.Proofs.Run

/-!
This module contains what comes of a run that logs a day. Its outcome is determined by the trace that
the run leaves, and what is displayed of one trace after another is displayed one after the other.
-/

namespace Workday

namespace Output

theorem ext_iff {a b : Output} : a = b ↔ a.out = b.out ∧ a.err = b.err := by
  cases a
  cases b
  simp

@[simp]
theorem out_append (a b : Output) : (a ++ b).out = a.out ++ b.out := rfl

@[simp]
theorem err_append (a b : Output) : (a ++ b).err = a.err ++ b.err := rfl

theorem append_assoc (a b c : Output) : a ++ b ++ c = a ++ (b ++ c) := by
  simp [ext_iff, String.append_assoc]

@[simp]
theorem empty_append (a : Output) : empty ++ a = a := by
  simp [ext_iff, empty]

@[simp]
theorem append_empty (a : Output) : a ++ empty = a := by
  simp [ext_iff, empty]

end Output

namespace Display

variable (display : Display)

@[simp]
theorem renderAll_nil : display.renderAll [] = .empty := rfl

theorem renderAll_cons (event : Event) (events : List Event) :
    display.renderAll (event :: events) = display.render event ++ display.renderAll events := rfl

theorem renderAll_append (xs ys : List Event) :
    display.renderAll (xs ++ ys) = display.renderAll xs ++ display.renderAll ys := by
  induction xs with
  | nil => simp
  | cons event xs ih => rw [List.cons_append, renderAll_cons, renderAll_cons, ih, Output.append_assoc]

theorem renderAll_concat (events : List Event) (event : Event) :
    display.renderAll (events ++ [event]) = display.renderAll events ++ display.render event := by
  rw [renderAll_append, renderAll_cons, renderAll_nil, Output.append_empty]

theorem exists_renderAll_of_mem {event : Event} {events : List Event} (h : event ∈ events) :
    ∃ head tail, display.renderAll events = head ++ display.render event ++ tail := by
  obtain ⟨before, after, rfl⟩ := List.append_of_mem h
  refine ⟨display.renderAll before, display.renderAll after, ?_⟩
  rw [renderAll_append, renderAll_cons, Output.append_assoc]

end Display

namespace Conclusion

variable {α : Type} {tree : FileTree} {run : Run Failure α} {trace : Trace}

theorem ofRun_of_ok {a : α} (h : run.after Trace.empty = (.ok a, trace)) :
    ofRun tree run = ⟨none, tree, trace⟩ := by
  unfold ofRun
  rw [Run.start_eq_after, h]

theorem ofRun_of_error {failure : Failure} (h : run.after Trace.empty = (.error failure, trace)) :
    ofRun tree run = ⟨some failure, tree, trace⟩ := by
  unfold ofRun
  rw [Run.start_eq_after, h]

theorem tree_ofRun (tree : FileTree) (run : Run Failure α) : (ofRun tree run).tree = tree := by
  unfold ofRun
  split <;> rfl

theorem ending_ne_exited_zero (failure : Failure) :
    ending ⟨some failure, tree, trace⟩ ≠ .exited 0 := by
  unfold ending
  dsimp only
  split <;> simp_all

theorem ending_eq_exited_zero_iff {conclusion : Conclusion} :
    conclusion.ending = .exited 0 ↔ conclusion.failure = none := by
  obtain ⟨failure, tree, trace⟩ := conclusion
  cases failure with
  | none => simp [ending]
  | some failure => simp [ending_ne_exited_zero]

end Conclusion

namespace Program

variable (surroundings : Surroundings) (environment : Environment)

@[simp]
theorem ending_conclude (conclusion : Conclusion) :
    (answer.conclude environment conclusion).ending = conclusion.ending := rfl

@[simp]
theorem failure_conclude (conclusion : Conclusion) :
    (answer.conclude environment conclusion).failure = conclusion.failure := rfl

@[simp]
theorem tree_conclude (conclusion : Conclusion) :
    (answer.conclude environment conclusion).tree = conclusion.tree := rfl

theorem answer_forget :
    answer surroundings environment (.setUp true) =
      answer.conclude environment (Setup.forget surroundings.tree (environment.lookup "HOME")) := rfl

theorem answer_setUp :
    answer surroundings environment (.setUp false) =
      answer.conclude environment (Setup.run surroundings.tree (environment.lookup "HOME")
        (surroundings.terminal.map fun typed => Key.decode typed.toList)) := rfl

end Program

namespace Logging

def runOf (surroundings : Surroundings) (environment : Environment) (request : LogRequest) :
    Run Failure Unit :=
  run (Settings.read surroundings.tree (environment.lookup "HOME")) surroundings.tracker
    surroundings.today request

variable {surroundings : Surroundings} {environment : Environment} {request : LogRequest}
variable {trace : Trace}

theorem answer_eq_conclude :
    Program.answer surroundings environment (.log request) =
      Program.answer.conclude environment
        (Conclusion.ofRun surroundings.tree (runOf surroundings environment request)) := rfl

theorem answer_of_ok
    (h : (runOf surroundings environment request).after Trace.empty = (.ok (), trace)) :
    Program.answer surroundings environment (.log request) =
      ⟨.exited 0, none, (Program.display environment).renderAll trace.events.reverse,
        trace.commands.reverse, surroundings.tree⟩ := by
  rw [answer_eq_conclude, Conclusion.ofRun_of_ok h]
  simp [Program.answer.conclude, Conclusion.ending, Conclusion.events]

theorem answer_of_error {failure : Failure}
    (h : (runOf surroundings environment request).after Trace.empty = (.error failure, trace)) :
    Program.answer surroundings environment (.log request) =
      Program.answer.conclude environment ⟨some failure, surroundings.tree, trace⟩ := by
  rw [answer_eq_conclude, Conclusion.ofRun_of_error h]

theorem commands_answer :
    (Program.answer surroundings environment (.log request)).commands =
      ((runOf surroundings environment request).after Trace.empty).2.commands.reverse := by
  cases h : (runOf surroundings environment request).after Trace.empty with
  | mk outcome trace =>
    cases outcome with
    | ok => rw [answer_of_ok h]
    | error => rw [answer_of_error h, Program.answer.conclude]

theorem output_answer_of_isBefore {earlier : Trace}
    (h : earlier.IsBefore ((runOf surroundings environment request).after Trace.empty).2) :
    ∃ rest, (Program.answer surroundings environment (.log request)).output =
      (Program.display environment).renderAll earlier.events.reverse ++ rest := by
  obtain ⟨events, hevents⟩ := h.2
  cases hrun : (runOf surroundings environment request).after Trace.empty with
  | mk outcome trace =>
    rw [hrun] at hevents
    cases outcome with
    | ok =>
      rw [answer_of_ok hrun, ← hevents, List.reverse_append, Display.renderAll_append]
      exact ⟨_, rfl⟩
    | error =>
      rw [answer_of_error hrun, Program.answer.conclude, Conclusion.events, ← hevents,
        List.reverse_append, List.append_assoc, Display.renderAll_append]
      exact ⟨_, rfl⟩

theorem ending_answer_eq_exited_zero_iff :
    (Program.answer surroundings environment (.log request)).ending = .exited 0 ↔
      ((runOf surroundings environment request).after Trace.empty).1.isOk = true := by
  cases h : (runOf surroundings environment request).after Trace.empty with
  | mk outcome trace =>
    cases outcome with
    | ok =>
      rw [answer_of_ok h]
      simp [Except.isOk, Except.toBool]
    | error failure =>
      rw [answer_of_error h, Program.answer.conclude]
      simp [Except.isOk, Except.toBool, Conclusion.ending_ne_exited_zero]

end Logging

end Workday
