import Mathlib.Data.List.Forall2
import Workday.Proofs.Command
import Workday.Proofs.Run

/-!
This module contains what the project of a command is good for. It completes the keys of the tasks
that are given by their numbers, and nothing else depends on it: which tokens are rejected, how the
day is shared and whether it adds up are the same in every project.
-/

namespace Workday

open Text

theorem map_eq_map_cases {ε α β : Type} {f : α → β} {a b : Except ε α} (h : a.map f = b.map f) :
    (∃ error, a = .error error ∧ b = .error error) ∨
      ∃ x y, a = .ok x ∧ b = .ok y ∧ f x = f y := by
  cases a with
  | error error =>
    cases b with
    | error other => exact .inl ⟨error, rfl, by rw [Except.error.inj h]⟩
    | ok y => contradiction
  | ok x =>
    cases b with
    | error other => contradiction
    | ok y => exact .inr ⟨x, y, rfl, rfl, Except.ok.inj h⟩

namespace TaskId

/--
Whether a token names a task, by a full key or by a number alone.
-/
def IsName (token : String) : Prop := IsFull token ∨ isNumber token.toList = true

theorem isSome_parse?_iff (project : String) {token : String} :
    (parse? project token).isSome = true ↔ IsName token := by
  rw [Option.isSome_iff_exists]
  simp only [parse?_eq_some_iff, NamesIn, exists_or, exists_and_left, exists_eq, and_true, IsName]

instance (token : String) : Decidable (IsName token) :=
  decidable_of_iff _ (isSome_parse?_iff "")

theorem exists_parse?_of_isName {token : String} (h : IsName token) (project : String) :
    ∃ id, parse? project token = some id :=
  Option.isSome_iff_exists.1 ((isSome_parse?_iff project).2 h)

theorem parse?_of_not_isName {token : String} (h : ¬IsName token) (project : String) :
    parse? project token = none := by
  rwa [← isSome_parse?_iff project, Option.not_isSome_iff_eq_none] at h

theorem forall₂_namesIn (project : String) (tokens : List String) :
    List.Forall₂ (NamesIn project) (tokens.filter fun token => IsName token)
      (tokens.filterMap (parse? project)) := by
  induction tokens with
  | nil => exact List.Forall₂.nil
  | cons token tokens ih =>
    by_cases hname : IsName token
    . obtain ⟨id, hid⟩ := exists_parse?_of_isName hname project
      rw [List.filter_cons_of_pos (by simpa using hname), List.filterMap_cons_some hid]
      exact ih.cons (parse?_eq_some_iff.1 hid)
    . rw [List.filter_cons_of_neg (by simpa using hname),
        List.filterMap_cons_none (parse?_of_not_isName hname project)]
      exact ih

end TaskId

namespace Draft

/--
Two drafts are alike if they have rejected the same and their tasks have the same minutes.
-/
structure Alike (a b : Draft) : Prop where
  minutes_eq : a.tasks.map Task.minutes = b.tasks.map Task.minutes
  rejections_eq : a.rejections = b.rejections

variable {a b : Draft} (p q : String)

theorem Alike.start (h : Alike a b) (id id' : String) : Alike (a.start id) (b.start id') where
  minutes_eq := congrArg (none :: ·) h.minutes_eq
  rejections_eq := h.rejections_eq

theorem Alike.reject (h : Alike a b) (token : String) (reason : Reason) :
    Alike (a.reject token reason) (b.reject token reason) where
  minutes_eq := h.minutes_eq
  rejections_eq := by rw [Draft.reject, Draft.reject, h.rejections_eq]

-- What becomes of minutes depends on whether the latest task has any, and not on its key.
theorem Alike.attach (h : Alike a b) (token : String) (minutes : UInt32) :
    Alike (a.attach token minutes) (b.attach token minutes) := by
  have hminutes := h.minutes_eq
  unfold Draft.attach
  split
  . next hnone =>
    rw [hnone, List.map_nil, eq_comm, List.map_eq_nil_iff] at hminutes
    rw [hminutes]
    exact h.reject token _
  . next id given earlier hclosed =>
    rw [hclosed, List.map_cons, eq_comm, List.map_eq_cons_iff] at hminutes
    obtain ⟨⟨id', given'⟩, earlier', htasks, rfl, _⟩ := hminutes
    rw [htasks]
    exact h.reject token _
  . next id earlier hopen =>
    rw [hopen, List.map_cons, eq_comm, List.map_eq_cons_iff] at hminutes
    obtain ⟨⟨id', given'⟩, earlier', htasks, rfl, hearlier⟩ := hminutes
    rw [htasks]
    exact ⟨congrArg (List.cons (some minutes)) hearlier.symm, h.rejections_eq⟩

theorem Alike.read (h : Alike a b) (text : String) : Alike (a.read p text) (b.read q text) := by
  unfold Draft.read Token.classify
  by_cases hname : TaskId.IsName text
  . obtain ⟨id, hid⟩ := TaskId.exists_parse?_of_isName hname p
    obtain ⟨id', hid'⟩ := TaskId.exists_parse?_of_isName hname q
    rw [hid, hid']
    exact h.start id id'
  . rw [TaskId.parse?_of_not_isName hname p, TaskId.parse?_of_not_isName hname q]
    cases Duration.parse? text with
    | some minutes => exact h.attach text minutes
    | none => exact h.reject text _

theorem Alike.foldl (h : Alike a b) (tokens : List String) :
    Alike (tokens.foldl (Draft.read p) a) (tokens.foldl (Draft.read q) b) := by
  induction tokens generalizing a b with
  | nil => exact h
  | cons text tokens ih => exact ih (h.read p q text)

theorem Alike.finish (h : Alike a b) :
    a.finish.map (List.map Task.minutes) = b.finish.map (List.map Task.minutes) := by
  unfold Draft.finish
  rw [h.rejections_eq]
  split
  . change Except.ok (a.tasks.reverse.map Task.minutes) = .ok (b.tasks.reverse.map Task.minutes)
    rw [List.map_reverse, List.map_reverse, h.minutes_eq]
  . rfl

theorem map_id_read (draft : Draft) (project text : String) :
    (draft.read project text).tasks.map Task.id =
      (TaskId.parse? project text).toList ++ draft.tasks.map Task.id := by
  unfold Draft.read Token.classify
  cases TaskId.parse? project text with
  | some id => rfl
  | none =>
    dsimp only
    cases Duration.parse? text with
    | none => rfl
    | some minutes =>
      dsimp only
      unfold attach
      split
      . rfl
      . rfl
      . next htasks => simp [htasks]

theorem map_id_foldl (draft : Draft) (project : String) (tokens : List String) :
    (tokens.foldl (Draft.read project) draft).tasks.map Task.id =
      (tokens.filterMap (TaskId.parse? project)).reverse ++ draft.tasks.map Task.id := by
  induction tokens generalizing draft with
  | nil => rfl
  | cons text tokens ih =>
    rw [List.foldl_cons, ih, map_id_read]
    cases hid : TaskId.parse? project text <;> simp [hid]

end Draft

section Filling

variable {tasks tasks' : List Task}

theorem totalMinutes_congr (h : tasks.map Task.minutes = tasks'.map Task.minutes) :
    totalMinutes tasks = totalMinutes tasks' := by
  have hfold (tasks : List Task) : totalMinutes tasks =
      (tasks.map Task.minutes).foldr (fun given minutes => (given.getD 0).toUInt64 + minutes) 0 :=
    by unfold totalMinutes; rw [List.foldr_map]
  rw [hfold, hfold, h]

theorem gapCount_congr (h : tasks.map Task.minutes = tasks'.map Task.minutes) :
    gapCount tasks = gapCount tasks' := by
  have hgap : Task.isGap = Option.isNone ∘ Task.minutes := rfl
  unfold gapCount
  rw [hgap, ← List.countP_map, h, List.countP_map]

theorem map_minutes_fillFirst_congr (first others : UInt32)
    (h : tasks.map Task.minutes = tasks'.map Task.minutes) :
    (fillFirst first others tasks).map Task.minutes =
      (fillFirst first others tasks').map Task.minutes := by
  induction tasks generalizing tasks' with
  | nil =>
    rw [List.map_nil, eq_comm, List.map_eq_nil_iff] at h
    rw [h]
  | cons task tasks ih =>
    rw [List.map_cons, eq_comm, List.map_eq_cons_iff] at h
    obtain ⟨⟨id', given'⟩, rest, rfl, rfl, hrest⟩ := h
    obtain ⟨id, given⟩ := task
    cases given with
    | none =>
      rw [fillFirst_cons_none, fillFirst_cons_none, List.map_cons, List.map_cons,
        map_minutes_fillWith, map_minutes_fillWith, hrest]
    | some given =>
      rw [fillFirst_cons_some, fillFirst_cons_some, List.map_cons, List.map_cons, ih hrest.symm]

theorem fillGaps_congr (h : tasks.map Task.minutes = tasks'.map Task.minutes) :
    (fillGaps tasks).map (List.map Task.minutes) = (fillGaps tasks').map (List.map Task.minutes) := by
  have hassigned : assignedMinutes tasks = assignedMinutes tasks' := by
    rw [assignedMinutes, totalMinutes_congr h, assignedMinutes]
  have hsplit : split? tasks = split? tasks' := by
    unfold split?
    rw [hassigned, gapCount_congr h]
  unfold fillGaps
  rw [hassigned, hsplit, gapCount_congr h]
  dsimp only
  split
  . rfl
  . split
    . split
      . exact congrArg Except.ok h
      . rfl
    . split
      . rfl
      . next split _ =>
        have hfilled := map_minutes_fillFirst_congr (split.part + split.remainder) split.part h
        rw [assignedMinutes, totalMinutes_congr hfilled, ← assignedMinutes]
        split
        . rfl
        . exact congrArg Except.ok hfilled

theorem map_id_fillGaps (h : fillGaps tasks = .ok tasks') :
    tasks'.map Task.id = tasks.map Task.id := by
  unfold fillGaps at h
  dsimp only at h
  split at h
  . contradiction
  . split at h
    . split at h
      . rw [Except.ok.inj h]
      . contradiction
    . split at h
      . contradiction
      . split at h
        . contradiction
        . rw [← Except.ok.inj h, map_id_fillFirst]

theorem gapCount_replicate (count : Nat) (id : String) :
    gapCount (List.replicate count ⟨id, none⟩) = count := by
  unfold gapCount
  rw [List.countP_replicate, if_pos (Task.isGap_mk_none id)]

end Filling

theorem parseTasks_replicate {id : String} (h : TaskId.IsFull id) (project : String) (count : Nat) :
    parseTasks project (List.replicate count id) = .ok (List.replicate count ⟨id, none⟩) := by
  have hcommand : commandOf (List.replicate count ⟨id, none⟩) = List.replicate count id := by
    unfold commandOf
    rw [List.flatMap_replicate]
    exact List.flatten_replicate_singleton
  rw [← hcommand]
  apply parseTasks_commandOf
  intro task hmem
  rw [List.eq_of_mem_replicate hmem]
  exact h

theorem map_id_parseTasks {project : String} {tokens : List String} {tasks : List Task}
    (h : parseTasks project tokens = .ok tasks) :
    tasks.map Task.id = tokens.filterMap (TaskId.parse? project) := by
  rw [parseTasks_eq_ok_iff] at h
  rw [← h.2, List.map_reverse, Draft.map_id_foldl]
  simp [Draft.empty]

theorem map_minutes_parseTasks (p q : String) (tokens : List String) :
    (parseTasks p tokens).map (List.map Task.minutes) =
      (parseTasks q tokens).map (List.map Task.minutes) :=
  (Draft.Alike.foldl p q ⟨rfl, rfl⟩ tokens).finish

namespace Timesheet

variable {project : String} {sloppy : Bool} {tokens : List String} {sheet : Timesheet}

def times (sheet : Timesheet) : List (Option UInt32) × Option Imbalance :=
  (sheet.tasks.map Task.minutes, sheet.imbalance)

theorem times_ofTasks_congr {tasks tasks' : List Task} (sloppy : Bool)
    (h : tasks.map Task.minutes = tasks'.map Task.minutes) :
    (ofTasks sloppy tasks).map times = (ofTasks sloppy tasks').map times := by
  unfold ofTasks
  rw [any_isGap_eq, any_isGap_eq, gapCount_congr h]
  obtain ⟨unfilled, hleft, hright⟩ | ⟨filled, filled', hleft, hright, hfilled⟩ :=
    map_eq_map_cases (fillGaps_congr h)
  . rw [hleft, hright]
    cases unfilled with
    | unbalanced imbalance =>
      dsimp only
      split
      . exact congrArg (fun minutes => Except.ok (minutes, some imbalance)) h
      . rfl
    | aborted => rfl
  . rw [hleft, hright]
    exact congrArg (fun minutes => Except.ok (minutes, none)) hfilled

theorem times_prepare (p q : String) (sloppy : Bool) (tokens : List String) :
    (prepare p sloppy tokens).map times = (prepare q sloppy tokens).map times := by
  unfold prepare
  obtain ⟨rejections, hleft, hright⟩ | ⟨tasks, tasks', hleft, hright, hminutes⟩ :=
    map_eq_map_cases (map_minutes_parseTasks p q tokens)
  . rw [hleft, hright]
  . rw [hleft, hright]
    exact times_ofTasks_congr sloppy hminutes

theorem map_id_ofTasks {tasks : List Task} (h : ofTasks sloppy tasks = .ok sheet) :
    sheet.tasks.map Task.id = tasks.map Task.id := by
  unfold ofTasks at h
  split at h
  . next filled hfill =>
    rw [← Except.ok.inj h]
    exact map_id_fillGaps hfill
  . split at h
    . rw [← Except.ok.inj h]
    . contradiction
  . contradiction

theorem map_id_prepare (h : prepare project sloppy tokens = .ok sheet) :
    sheet.tasks.map Task.id = tokens.filterMap (TaskId.parse? project) := by
  obtain ⟨tasks, hparse⟩ := exists_parseTasks_of_prepare h
  rw [prepare_of_ok hparse] at h
  rw [← map_id_parseTasks hparse, map_id_ofTasks h]

-- A task takes at most two tokens, so that no token is left over where there is no task.
theorem tasks_ne_nil_of_prepare (h : prepare project sloppy tokens = .ok sheet)
    (hne : tokens ≠ []) : sheet.tasks ≠ [] := by
  obtain ⟨tasks, hparse⟩ := exists_parseTasks_of_prepare h
  have hlength := length_parseTasks hparse
  have htokens := List.length_pos_of_ne_nil hne
  have hids := map_id_prepare h
  rw [← map_id_parseTasks hparse] at hids
  intro hnil
  rw [hnil, List.map_nil, eq_comm, List.map_eq_nil_iff] at hids
  rw [hids, List.length_nil] at hlength
  omega

-- The gaps are counted in 32 bits, which takes as many tokens as these can count to go wrong.
theorem le_length_of_prepare_aborted (h : prepare project sloppy tokens = .error .aborted) :
    2 ^ 32 ≤ tokens.length := by
  by_contra hfew
  rw [Nat.not_le] at hfew
  cases hparse : parseTasks project tokens with
  | error rejections =>
    rw [prepare_of_error hparse] at h
    cases h
  | ok tasks =>
    obtain ⟨_, _, heq⟩ | ⟨_, _, _, heq⟩ | ⟨_, _, _, heq⟩ | ⟨_, _, heq⟩ | ⟨_, _, heq⟩ :=
      prepare_cases sloppy hfew hparse
    all_goals
      rw [heq] at h
      cases h

/--
Preparing comes out the same in any two projects: with the same refusal, or with timesheets that agree
in everything but the keys of the tasks. A key is the token itself where that is a full one, and else
the number that the token is, in the one project or the other. Only 2^32 tokens and more can abort it
instead, and then they do so in both projects.
-/
theorem prepare_independent_of_project (p q : String) (sloppy : Bool) (tokens : List String) :
    (∃ refusal, refusal ≠ .aborted ∧ prepare p sloppy tokens = .error refusal ∧
      prepare q sloppy tokens = .error refusal) ∨
    (∃ sheet sheet', prepare p sloppy tokens = .ok sheet ∧ prepare q sloppy tokens = .ok sheet' ∧
      sheet.tasks.length = sheet'.tasks.length ∧
      sheet.tasks.map Task.minutes = sheet'.tasks.map Task.minutes ∧
      sheet.imbalance = sheet'.imbalance ∧
      List.Forall₂ (TaskId.NamesIn p) (tokens.filter fun token => TaskId.IsName token)
        (sheet.tasks.map Task.id) ∧
      List.Forall₂ (TaskId.NamesIn q) (tokens.filter fun token => TaskId.IsName token)
        (sheet'.tasks.map Task.id)) ∨
    (2 ^ 32 ≤ tokens.length ∧ prepare p sloppy tokens = .error .aborted ∧
      prepare q sloppy tokens = .error .aborted) := by
  obtain ⟨refusal, hleft, hright⟩ | ⟨sheet, sheet', hleft, hright, htimes⟩ :=
    map_eq_map_cases (times_prepare p q sloppy tokens)
  . by_cases haborted : refusal = .aborted
    . rw [haborted] at hleft hright
      exact .inr (.inr ⟨le_length_of_prepare_aborted hleft, hleft, hright⟩)
    . exact .inl ⟨refusal, haborted, hleft, hright⟩
  . obtain ⟨hminutes, himbalance⟩ := Prod.mk.inj htimes
    have hlength := congrArg List.length hminutes
    rw [List.length_map, List.length_map] at hlength
    refine .inr (.inl ⟨sheet, sheet', hleft, hright, hlength, hminutes, himbalance, ?_, ?_⟩)
    . rw [map_id_prepare hleft]
      apply TaskId.forall₂_namesIn
    . rw [map_id_prepare hright]
      apply TaskId.forall₂_namesIn

/--
As many gaps as 32 bits can count are none to the division, so preparing them neither fails nor
succeeds.
-/
theorem prepare_aborted_by_gaps :
    let tokens := List.replicate (2 ^ 32) "LP-1"
    prepare "LP" false tokens = .error .aborted ∧ prepare "OPS" false tokens = .error .aborted ∧
      (∀ rejections, prepare "LP" false tokens ≠ .error (.rejected rejections)) ∧
      (∀ imbalance, prepare "LP" false tokens ≠ .error (.unbalanced imbalance)) ∧
      ∀ sheet, prepare "LP" false tokens ≠ .ok sheet := by
  intro tokens
  have haborted (project : String) : prepare project false tokens = .error .aborted := by
    have hfull : TaskId.IsFull "LP-1" := ⟨['L', 'P'], ['1'], by decide⟩
    have hgaps := gapCount_replicate (2 ^ 32) "LP-1"
    have hfill := fillGaps_of_ofNat_gapCount_eq_zero (by rw [hgaps]; decide) (by rw [hgaps]; decide)
      (by rw [sumGiven_replicate]; decide)
    rw [prepare_of_ok (parseTasks_replicate hfull project (2 ^ 32)), ofTasks, hfill]
  refine ⟨haborted "LP", haborted "OPS", ?_, ?_, ?_⟩
  all_goals
    intro _ h
    rw [haborted] at h
    cases h

end Timesheet

end Workday
