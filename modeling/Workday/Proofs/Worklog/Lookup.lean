import Workday.Proofs.Worklog
import Workday.Proofs.Worklog.Calls

/-!
This module contains which calls the pass over the names of a timesheet makes of an issue tracker,
whatever the tracker answers: one for each issue, in the order in which they first occur, until one
fails. The names that are found are the answers to these calls.
-/

namespace Workday

namespace Worklog

variable {known : List String} {id : String} {tasks : List Task}

theorem mem_unknownIds_iff :
    id ∈ unknownIds known tasks ↔ id ∈ tasks.map Task.id ∧ known.contains id = false := by
  unfold unknownIds
  rw [List.mem_eraseDups, List.mem_filter, Bool.not_eq_true']

theorem nodup_unknownIds (known : List String) (tasks : List Task) :
    (unknownIds known tasks).Nodup := by
  induction tasks generalizing known with
  | nil => exact List.nodup_nil
  | cons task tasks ih =>
    cases hknown : known.contains task.id with
    | true =>
      rw [unknownIds_cons_of_known hknown]
      apply ih
    | false =>
      rw [unknownIds_cons_of_unknown hknown, List.nodup_cons]
      refine ⟨?_, ih _⟩
      rw [mem_unknownIds_iff, List.contains_cons]
      simp

end Worklog

namespace Answers

open Worklog

variable {answers : Answers} {earlier : List Call} {known : Names} {task : Task} {tasks : List Task}

section Step

theorem after_lookupNames_of_known (h : (known.lookup task.id).isSome = true) :
    Session.after (answers.desk.lookupNames known (task :: tasks)) earlier =
      Session.after (answers.desk.lookupNames known tasks) earlier := by
  rw [IssueDesk.lookupNames, if_pos h]

theorem after_lookupNames_of_ok {name : String} (hunknown : ¬(known.lookup task.id).isSome = true)
    (h : answers.respond earlier (.title task.id) = .ok name) :
    Session.after (answers.desk.lookupNames known (task :: tasks)) earlier =
      Session.after (answers.desk.lookupNames ((task.id, name) :: known) tasks)
        (earlier ++ [.title task.id]) := by
  rw [IssueDesk.lookupNames, if_neg hunknown]
  exact after_failWith_bind_of_ok h

theorem after_lookupNames_of_error {cause : TrackerError}
    (hunknown : ¬(known.lookup task.id).isSome = true)
    (h : answers.respond earlier (.title task.id) = .error cause) :
    Session.after (answers.desk.lookupNames known (task :: tasks)) earlier =
      (.error ⟨task.id, cause⟩, earlier ++ [.title task.id]) := by
  rw [IssueDesk.lookupNames, if_neg hunknown]
  exact after_failWith_bind_of_error h

end Step

theorem makes_lookupNames (known : Names) (tasks : List Task) (earlier : List Call) :
    answers.Makes earlier ((unknownIds (known.map Prod.fst) tasks).map .title)
      (Session.after (answers.desk.lookupNames known tasks) earlier) := by
  -- Every name that is found is known to the rest of the pass.
  induction tasks generalizing known earlier with
  | nil => exact makes_nil known
  | cons task tasks ih =>
    by_cases hknown : (known.lookup task.id).isSome = true
    . rw [after_lookupNames_of_known hknown]
      rw [isSome_lookup_eq] at hknown
      rw [unknownIds_cons_of_known hknown]
      apply ih
    . have hunknown := hknown
      rw [isSome_lookup_eq, Bool.not_eq_true] at hunknown
      rw [unknownIds_cons_of_unknown hunknown, List.map_cons]
      cases hcall : answers.respond earlier (.title task.id) with
      | ok name =>
        rw [after_lookupNames_of_ok hknown hcall]
        exact .cons hcall (ih ((task.id, name) :: known) _)
      | error cause =>
        rw [after_lookupNames_of_error hknown hcall]
        exact makes_cons_of_error hcall

/--
A name was given to an issue by the answer to one of the calls.
-/
def Named (answers : Answers) (calls : List Call) (id name : String) : Prop :=
  ∃ before after, calls = before ++ .title id :: after ∧
    answers.respond before (.title id) = .ok name

theorem named_of_lookupNames {names : Names} {later : List Call}
    (h : Session.after (answers.desk.lookupNames known tasks) earlier = (.ok names, later)) :
    earlier <+: later ∧
      names.map Prod.fst = (unknownIds (known.map Prod.fst) tasks).reverse ++ known.map Prod.fst ∧
      ∀ id name, (id, name) ∈ names → (id, name) ∈ known ∨ answers.Named later id name := by
  induction tasks generalizing known earlier with
  | nil =>
    cases h
    exact ⟨List.prefix_refl _, rfl, fun _ _ hmem => .inl hmem⟩
  | cons task tasks ih =>
    by_cases hknown : (known.lookup task.id).isSome = true
    . rw [after_lookupNames_of_known hknown] at h
      rw [isSome_lookup_eq] at hknown
      rw [unknownIds_cons_of_known hknown]
      exact ih h
    . cases hcall : answers.respond earlier (.title task.id) with
      | ok found =>
        rw [after_lookupNames_of_ok hknown hcall] at h
        obtain ⟨hearlier, hkeys, hnamed⟩ := ih h
        rw [isSome_lookup_eq, Bool.not_eq_true] at hknown
        rw [unknownIds_cons_of_unknown hknown]
        refine ⟨(List.prefix_append _ _).trans hearlier, ?_, ?_⟩
        . rw [hkeys]
          simp
        . intro id name hmem
          obtain hmem | hnew := hnamed id name hmem
          . rw [List.mem_cons] at hmem
            obtain heq | hmem := hmem
            . cases heq
              obtain ⟨after, hlater⟩ := hearlier
              exact .inr ⟨earlier, after, by rw [← hlater, List.append_assoc]; rfl, hcall⟩
            . exact .inl hmem
          . exact .inr hnew
      | error cause =>
        rw [after_lookupNames_of_error hknown hcall] at h
        cases h

/--
The names of a timesheet are looked up with one call for each issue in the order of first occurrence
and no other call, up to the first one that fails. If all of them are answered, exactly the issues of
the timesheet have names, each of them the answer to its one call. Otherwise the pass fails with the
issue and the error of the call that failed, and every call before it was answered.
-/
theorem lookupNames_calls (answers : Answers) (tasks : List Task) :
    let ids := (tasks.map Task.id).eraseDups
    let result := Session.after (answers.desk.lookupNames [] tasks) []
    ids.Nodup ∧
    (∀ names, result.1 = .ok names →
      result.2 = ids.map .title ∧
      answers.AcceptsAfter [] result.2 ∧
      names.map Prod.fst = ids.reverse ∧
      ∀ id ∈ ids, ∃ name, names.lookup id = some name ∧ answers.Named result.2 id name) ∧
    (∀ failure, result.1 = .error failure →
      ∃ before after,
        ids = before ++ failure.id :: after ∧
        result.2 = (before ++ [failure.id]).map .title ∧
        answers.AcceptsAfter [] (before.map .title) ∧
        answers.respond (before.map .title) (.title failure.id) = .error failure.cause) := by
  intro ids result
  have hids : unknownIds [] tasks = ids := unknownIds_of_nothing_known tasks
  have hmakes : answers.Makes [] ((unknownIds [] tasks).map .title) result :=
    makes_lookupNames [] tasks []
  rw [hids] at hmakes
  refine ⟨hids ▸ nodup_unknownIds [] tasks, ?_, ?_⟩
  . intro names hnames
    obtain ⟨hcalls, haccepts⟩ := hmakes.of_ok hnames
    obtain ⟨_, hkeys, hnamed⟩ := named_of_lookupNames (Prod.ext hnames rfl : result = (_, result.2))
    rw [List.map_nil, List.append_nil, hids] at hkeys
    rw [List.nil_append] at hcalls
    refine ⟨hcalls, by rwa [hcalls], hkeys, ?_⟩
    intro id hid
    obtain ⟨name, hname, hmem⟩ : ∃ name, names.lookup id = some name ∧ (id, name) ∈ names := by
      apply exists_lookup_of_mem_keys
      rw [hkeys, List.mem_reverse]
      exact hid
    exact ⟨name, hname, (hnamed id name hmem).resolve_left List.not_mem_nil⟩
  . intro failure hfailure
    obtain ⟨before, call, after, hplanned, hcalls, haccepts, hid, hcall⟩ := hmakes.of_error hfailure
    rw [List.nil_append] at hcalls hcall
    obtain ⟨asked, rest, hsplit, rfl, hrest⟩ := List.map_eq_append_iff.1 hplanned
    obtain ⟨id, left, rfl, rfl, rfl⟩ := List.map_eq_cons_iff.1 hrest
    rw [show failure.id = id from hid]
    refine ⟨asked, left, hsplit, ?_, haccepts, hcall⟩
    rw [hcalls, List.map_append, List.map_singleton]

theorem lookupNames_calls_of_repeated_id :
    let tasks : List Task := [⟨"LP-2", some 30⟩, ⟨"LP-1", none⟩, ⟨"LP-2", none⟩, ⟨"LP-3", some 0⟩]
    let found := Session.after ((tiringAnswers 3).desk.lookupNames [] tasks) []
    let failed := Session.after ((tiringAnswers 2).desk.lookupNames [] tasks) []
    found.1 = .ok [("LP-3", "Title 2"), ("LP-1", "Title 1"), ("LP-2", "Title 0")] ∧
      found.2 = [.title "LP-2", .title "LP-1", .title "LP-3"] ∧
      failed.1 = .error ⟨"LP-3", .nameNotFound "LP-3"⟩ ∧
      ∃ before after, ["LP-2", "LP-1", "LP-3"] = before ++ "LP-3" :: after ∧
        failed.2 = (before ++ ["LP-3"]).map .title := by
  intro tasks found failed
  have hids : (tasks.map Task.id).eraseDups = ["LP-2", "LP-1", "LP-3"] := by decide
  have hfound : found.1 = .ok [("LP-3", "Title 2"), ("LP-1", "Title 1"), ("LP-2", "Title 0")] := rfl
  have hfailed : failed.1 = .error ⟨"LP-3", .nameNotFound "LP-3"⟩ := rfl
  obtain ⟨_, hok, _⟩ := lookupNames_calls (tiringAnswers 3) tasks
  obtain ⟨_, _, herror⟩ := lookupNames_calls (tiringAnswers 2) tasks
  rw [hids] at hok herror
  obtain ⟨before, after, hsplit, hcalls, _⟩ := herror _ hfailed
  exact ⟨hfound, (hok _ hfound).1, hfailed, before, after, hsplit, hcalls⟩

end Answers

end Workday
