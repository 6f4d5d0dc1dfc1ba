import Mathlib.Control.Monad.Basic
import Workday.Proofs.Outcome
import Workday.Proofs.Settings.Saving

/-!
This module contains what the setup of the program asks for. A question takes the keys up to the one
that accepts, and its answer is the line that they leave, or the default if that is empty. What is
saved are the answers, which have been checked.
-/

namespace Workday

/--
Whether a key neither accepts an answer nor interrupts the setup.
-/
def Key.Edits (key : Key) : Prop := key ≠ .enter ∧ key ≠ .interrupt

namespace EditedLine

/--
The answer that accepting a line gives.
-/
def given (default : String) (line : EditedLine) : String :=
  if line.text.isEmpty then default else String.ofList line.text

/--
The answer that is given by typing keys into the empty line.
-/
def typed (default : String) (keys : List Key) : String :=
  (keys.foldl press empty).given default

theorem answer_of_edits {key : Key} (h : key.Edits) (default : String) (line : EditedLine)
    (keys : List Key) : line.answer default (key :: keys) = (line.press key).answer default keys := by
  obtain ⟨henter, hinterrupt⟩ := h
  cases key <;> first | contradiction | rfl

theorem answer_append_enter {edits : List Key} (h : ∀ key ∈ edits, key.Edits) (default : String)
    (line : EditedLine) (rest : List Key) :
    line.answer default (edits ++ .enter :: rest) =
      .ok ((edits.foldl press line).given default, rest) := by
  induction edits generalizing line with
  | nil => rfl
  | cons key edits ih =>
    rw [List.forall_mem_cons] at h
    rw [List.cons_append, answer_of_edits h.1, ih h.2, List.foldl_cons]

-- The keys of a line end at the first key that does not edit it.
theorem exists_of_answer_eq_ok {default text : String} {line : EditedLine} {keys rest : List Key}
    (h : line.answer default keys = .ok (text, rest)) :
    ∃ edits, keys = edits ++ .enter :: rest ∧ (∀ key ∈ edits, key.Edits) ∧
      text = (edits.foldl press line).given default := by
  induction keys generalizing line with
  | nil => contradiction
  | cons key keys ih =>
    by_cases hedits : key.Edits
    . rw [answer_of_edits hedits] at h
      obtain ⟨edits, rfl, hall, htext⟩ := ih h
      exact ⟨key :: edits, rfl, List.forall_mem_cons.2 ⟨hedits, hall⟩, htext⟩
    . cases key with
      | enter =>
        cases h
        exact ⟨[], rfl, by simp, rfl⟩
      | interrupt => contradiction
      | _ => exact absurd ⟨Key.noConfusion, Key.noConfusion⟩ hedits

end EditedLine

namespace Setup

open Run

variable {α : Type} {keys rest : List Key} {trace later : Trace}

theorem ask_of_ok {question : List Key → Except Unanswered (α × List Key)} {answer : α × List Key}
    (h : question keys = .ok answer) : ask question keys = pure answer := by
  unfold ask
  rw [h]

theorem eq_ok_of_ask {question : List Key → Except Unanswered (α × List Key)} {a : α × List Key}
    (h : (ask question keys).after trace = (.ok a, later)) : question keys = .ok a := by
  unfold ask at h
  split at h
  . next answer hanswer =>
    rw [after_pure] at h
    cases h
    exact hanswer
  . rw [after_throw] at h
    cases h

theorem ok_of_askTracker {current settings : JiraSettings}
    (h : (askTracker current keys).after trace = (.ok settings, later)) :
    settings.check = .ok () ∧
    ∃ binary project startedAt rest,
      keys = binary ++ .enter :: (project ++ .enter :: (startedAt ++ .enter :: rest)) ∧
      (∀ key ∈ binary ++ project ++ startedAt, key.Edits) ∧
      settings = ⟨EditedLine.typed current.binary binary, EditedLine.typed current.project project,
        EditedLine.typed current.startedAt startedAt⟩ := by
  unfold askTracker at h
  obtain ⟨⟨binary, keys₁⟩, _, hbinary, h⟩ := ok_of_after_bind h
  obtain ⟨⟨project, keys₂⟩, _, hproject, h⟩ := ok_of_after_bind h
  obtain ⟨⟨startedAt, rest⟩, _, hstarted, h⟩ := ok_of_after_bind h
  obtain ⟨edits₁, rfl, hedits₁, rfl⟩ := EditedLine.exists_of_answer_eq_ok (eq_ok_of_ask hbinary)
  obtain ⟨edits₂, rfl, hedits₂, rfl⟩ := EditedLine.exists_of_answer_eq_ok (eq_ok_of_ask hproject)
  obtain ⟨edits₃, rfl, hedits₃, rfl⟩ := EditedLine.exists_of_answer_eq_ok (eq_ok_of_ask hstarted)
  dsimp only at h
  split at h
  . next hcheck =>
    rw [after_pure] at h
    cases h
    refine ⟨hcheck, edits₁, edits₂, edits₃, rest, rfl, ?_, rfl⟩
    intro key hkey
    simp only [List.mem_append] at hkey
    obtain (hkey | hkey) | hkey := hkey
    . exact hedits₁ key hkey
    . exact hedits₂ key hkey
    . exact hedits₃ key hkey
  . rw [after_throw] at h
    cases h

theorem ok_of_askAll {current settings : Settings}
    (h : (askAll current keys).after trace = (.ok settings, later)) :
    ∃ chosen rest, Choice.answer false keys = .ok (chosen, rest) ∧
      (chosen = true ∧ (∃ jira told, settings = ⟨some jira⟩ ∧
          (askTracker current.effective rest).after told = (.ok jira, later)) ∨
        chosen = false ∧ settings = current) := by
  unfold askAll at h
  obtain ⟨⟨chosen, rest⟩, _, hchosen, h⟩ := ok_of_after_bind h
  refine ⟨chosen, rest, eq_ok_of_ask hchosen, ?_⟩
  cases chosen with
  | true =>
    obtain ⟨_, told, _, h⟩ := ok_of_after_bind h
    obtain ⟨jira, _, hjira, h⟩ := ok_of_after_bind h
    rw [after_pure] at h
    cases h
    exact .inl ⟨rfl, jira, told, rfl, hjira⟩
  | false =>
    cases h
    exact .inr ⟨rfl, rfl⟩

theorem ok_of_askAll_of_chosen {current settings : Settings}
    (h : (askAll current keys).after trace = (.ok settings, later))
    (hchosen : Choice.answer false keys = .ok (true, rest)) :
    ∃ jira told, settings = ⟨some jira⟩ ∧
      (askTracker current.effective rest).after told = (.ok jira, later) := by
  obtain ⟨_, _, hchoice, ⟨_, hjira⟩ | ⟨hno, _⟩⟩ := ok_of_askAll h
  . rw [hchosen] at hchoice
    cases hchoice
    exact hjira
  . rw [hchosen, hno] at hchoice
    cases hchoice

theorem ok_of_answers {stored : Except Unusable Settings} {terminal : Option (List Key)}
    {settings : Settings} (h : (answers stored terminal).after trace = (.ok settings, later)) :
    ∃ keys, terminal = some keys ∧
      (askAll (stored.toOption.getD Settings.default) keys).after trace = (.ok settings, later) := by
  unfold answers at h
  split at h
  . rw [after_throw] at h
    cases h
  . next keys => exact ⟨keys, rfl, h⟩

theorem check_of_project {settings : JiraSettings}
    (h : TaskId.isProjectKey settings.project.toList = true) :
    settings.check = discard settings.startTime := by
  rw [JiraSettings.check, JiraSettings.checkProject, if_pos h]
  rfl

theorem checkProject_of_check {settings : JiraSettings} (h : settings.check = .ok ()) :
    settings.checkProject = .ok () := by
  unfold JiraSettings.check at h
  rw [Json.bind_eq_ok_iff] at h
  obtain ⟨_, hproject, _⟩ := h
  exact hproject

-- Settings that are kept have been checked when they were read, and others after they were asked for.
theorem check_of_answers {tree : FileTree} {home : Option String} {terminal : Option (List Key)}
    {settings : Settings}
    (h : (answers (Settings.read tree home) terminal).after trace = (.ok settings, later)) :
    settings.check = .ok () := by
  obtain ⟨keys, _, h⟩ := ok_of_answers h
  obtain ⟨_, _, _, ⟨_, jira, _, hsettings, hjira⟩ | ⟨_, hsettings⟩⟩ := ok_of_askAll h
  . rw [hsettings]
    exact checkProject_of_check (ok_of_askTracker hjira).1
  . rw [hsettings]
    cases hread : Settings.read tree home with
    | error => rfl
    | ok stored => exact Settings.check_of_load hread

section Outcomes

variable {tree : FileTree} {home : Option String}

theorem run_cases (h : Settings.HasRoom tree home) (terminal : Option (List Key)) :
    let conclusion := run tree home terminal
    Settings.HasRoom conclusion.tree home ∧
      (conclusion.failure = none ∧
          (∃ settings later, (answers (Settings.read tree home) terminal).after Trace.empty =
              (.ok settings, later) ∧
            Settings.read conclusion.tree home = .ok settings) ∨
        conclusion.failure ≠ none ∧ (conclusion.tree = tree ∨
          Settings.IsAbsent tree home ∧ Settings.IsAbsent conclusion.tree home)) := by
  intro conclusion
  have hrun : conclusion = run tree home terminal := rfl
  unfold run at hrun
  rw [start_eq_after] at hrun
  cases hanswers : (answers (Settings.read tree home) terminal).after Trace.empty with
  | mk result trace =>
    rw [hanswers] at hrun
    cases result with
    | error failure =>
      rw [hrun]
      exact ⟨h, .inr ⟨by simp, .inl rfl⟩⟩
    | ok settings =>
      obtain ⟨left, hroom, ⟨hsave, hread⟩ | ⟨error, hsave, hleft⟩⟩ := h.save_cases settings
      . dsimp only at hrun
        rw [hsave] at hrun
        rw [hrun]
        exact ⟨hroom, .inl ⟨rfl, settings, trace, rfl, hread (check_of_answers hanswers)⟩⟩
      . dsimp only at hrun
        rw [hsave] at hrun
        rw [hrun]
        exact ⟨hroom, .inr ⟨by simp, hleft⟩⟩

theorem forget_cases (h : Settings.HasRoom tree home) :
    let conclusion := forget tree home
    Settings.HasRoom conclusion.tree home ∧
      (conclusion.failure = none ∧ Settings.IsAbsent conclusion.tree home ∨
        conclusion.failure ≠ none ∧ conclusion.tree = tree) := by
  intro conclusion
  have hforget : conclusion = forget tree home := rfl
  unfold forget at hforget
  obtain ⟨left, hroom, hdelete, habsent⟩ | ⟨error, hdelete⟩ := h.delete_cases
  . rw [hdelete] at hforget
    rw [hforget]
    exact ⟨hroom, .inl ⟨rfl, habsent⟩⟩
  . rw [hdelete] at hforget
    rw [hforget]
    exact ⟨h, .inr ⟨by simp, rfl⟩⟩

end Outcomes

end Setup

end Workday
