import Workday.Proofs.Visits

/-!
This module contains what the variables for debugging are good for. They decide how a run displays
what happens in it, and nothing else depends on them: not what happens, which commands are executed,
how the run ends or which files it leaves. Only a file with variables can carry them further, by
making the home directory of one of them.
-/

namespace Workday

namespace Environment

def debugging : List String := ["WORKLOG_DEBUG", "RUST_LOG"]

/--
Whether two environments are the same apart from the variables that ask for a log.
-/
def AgreesApart (given other : Environment) : Prop :=
  ∀ name, name ∉ debugging → given.lookup name = other.lookup name

/--
Whether a file with variables leaves two environments with the same home directory. It does if the
directory is given, and otherwise if it assigns the same one in both.
-/
def SameHome (tree : FileTree) (given other : Environment) : Prop :=
  (given.lookup "HOME").isSome = true ∨
    (complete given tree).lookup "HOME" = (complete other tree).lookup "HOME"

variable {given other : Environment} {tree : FileTree}

theorem agreesApart_cons {name : String} (h : name ∈ debugging) (value : String)
    (given : Environment) : given.AgreesApart ((name, value) :: given) := by
  intro asked hasked
  rw [List.lookup_cons, beq_eq_false_iff_ne.2]
  rintro rfl
  exact hasked h

theorem lookup_home_complete (hagree : given.AgreesApart other) (hhome : SameHome tree given other) :
    (complete given tree).lookup "HOME" = (complete other tree).lookup "HOME" := by
  obtain hgiven | hsame := hhome
  . obtain ⟨path, hpath⟩ := Option.isSome_iff_exists.1 hgiven
    have hother : other.lookup "HOME" = some path := by
      rw [← hagree "HOME" (by decide), hpath]
    rw [lookup_complete tree hpath, lookup_complete tree hother]
  . exact hsame

end Environment

namespace Program

open Environment

/--
What a run carries out for the user of a home directory, unless it answers with a text alone. All
that surrounds the run is known here but its environment.
-/
def carriedOut? (today : Date) (tree : FileTree) (terminal : Option String) (tracker : Tracker)
    (home : Option String) (arguments : List String) : Option Conclusion :=
  match Request.parse arguments with
  | .ok (.setUp true) => some (Setup.forget tree home)
  | .ok (.setUp false) =>
    some (Setup.run tree home (terminal.map fun typed => Key.decode typed.toList))
  | .ok (.log request) =>
    some (Conclusion.ofRun tree (Logging.run (Settings.read tree home) tracker today request))
  | .ok (.help _) | .ok .version | .error _ => none

section Displayed

variable {today : Date} {tree : FileTree} {terminal : Option String} {tracker : Tracker}
variable {arguments : List String} {given : Environment}

theorem run_of_carriedOut {conclusion : Conclusion}
    (h : carriedOut? today tree terminal tracker ((complete given tree).lookup "HOME") arguments =
      some conclusion) :
    run ⟨today, given, tree, terminal, tracker⟩ arguments =
      answer.conclude (complete given tree) conclusion := by
  unfold carriedOut? at h
  unfold run
  cases hparse : Request.parse arguments with
  | error =>
    rw [hparse] at h
    contradiction
  | ok request =>
    rw [hparse] at h
    cases request with
    | help topic => contradiction
    | version => contradiction
    | setUp delete =>
      cases delete with
      | true =>
        rw [← Option.some.inj h]
        rfl
      | false =>
        rw [← Option.some.inj h]
        rfl
    | log request =>
      rw [← Option.some.inj h]
      rfl

-- A text that answers alone is the same in every environment.
theorem run_of_text {home : Option String}
    (h : carriedOut? today tree terminal tracker home arguments = none) (other : Environment) :
    run ⟨today, given, tree, terminal, tracker⟩ arguments =
      run ⟨today, other, tree, terminal, tracker⟩ arguments := by
  unfold carriedOut? at h
  unfold run
  cases hparse : Request.parse arguments with
  | error => rfl
  | ok request =>
    rw [hparse] at h
    cases request with
    | help topic => rfl
    | version => rfl
    | setUp delete => cases delete <;> contradiction
    | log request => contradiction

theorem out_conclude_of_table {conclusion : Conclusion} {text : String}
    (h : .table text ∈ conclusion.events) (environment : Environment) :
    ∃ before later, (answer.conclude environment conclusion).output.out = before ++ text ++ later := by
  obtain ⟨head, tail, hrender⟩ := (display environment).exists_renderAll_of_mem h
  refine ⟨head.out, tail.out, ?_⟩
  unfold answer.conclude
  rw [hrender, Output.out_append, Output.out_append]
  cases display environment <;> rfl

end Displayed

end Program

end Workday
