import Workday.Proofs.FileTree.Directories

/-!
This module contains what making directories does to any tree. It adds directories at places that the
names lead to, and nothing else. If it succeeds the names lead to a directory, and if it fails they
do not.
-/

namespace Workday.FileTree

open Json (bind_eq_ok_iff)

variable {tree grown last : FileTree} {start place : Place} {names : List String}

def follow (place : Place) (name : String) : Place :=
  if name = "." then place else if name = ".." then place.tail else name :: place

theorem eq_follow_of_enter {name : String} {next : Place} (h : tree.enter place name = .ok next) :
    next = follow place name := by
  obtain ⟨_, ⟨rfl, rfl⟩ | ⟨rfl, rfl⟩ | ⟨hdot, hdots, _, rfl⟩⟩ := enter_eq_ok_iff.1 h
  . rfl
  . rfl
  . rw [follow, if_neg hdot, if_neg hdots]

theorem eq_foldl_of_foldlM (h : names.foldlM tree.enter start = .ok place) :
    place = names.foldl follow start := by
  induction names generalizing start with
  | nil =>
    cases h
    rfl
  | cons name names ih =>
    obtain ⟨through, henter, hfold⟩ := foldlM_enter_cons_eq_ok_iff.1 h
    rw [List.foldl_cons, ← eq_follow_of_enter henter]
    exact ih hfold

theorem foldl_follow_filter (start : Place) (names : List String) :
    (names.filter (· ≠ ".")).foldl follow start = names.foldl follow start := by
  induction names generalizing start with
  | nil => rfl
  | cons name names ih =>
    rw [List.filter_cons, List.foldl_cons, ← ih]
    split
    . rfl
    . next hdot =>
      have hdot : name = "." := by simpa using hdot
      rw [follow, if_pos hdot]

theorem length_foldl_follow_le (start : Place) (names : List String) :
    (names.foldl follow start).length ≤ start.length + names.length := by
  induction names generalizing start with
  | nil => exact Nat.le_refl _
  | cons name names ih =>
    have hstep : (follow start name).length ≤ start.length + 1 := by
      unfold follow
      split
      . omega
      . split
        . rw [List.length_tail]
          omega
        . exact Nat.le_refl _
    have hrest := ih (follow start name)
    rw [List.foldl_cons, List.length_cons]
    omega

theorem length_le_foldl_follow {names : List String} (h : ".." ∉ names) (start : Place) :
    start.length ≤ (names.foldl follow start).length := by
  induction names generalizing start with
  | nil => exact Nat.le_refl _
  | cons name names ih =>
    rw [List.mem_cons, not_or] at h
    have hstep : start.length ≤ (follow start name).length := by
      unfold follow
      rw [if_neg (Ne.symm h.1)]
      split
      . exact Nat.le_refl _
      . exact Nat.le_succ _
    exact Nat.le_trans hstep (ih h.2 _)

section Leading

theorem isDirectory_iff :
    tree.isDirectory start names = true ↔
      ∃ place, names.foldlM tree.enter start = .ok place ∧ tree.node? place = some .directory := by
  unfold isDirectory
  cases names.foldlM tree.enter start with
  | error => simp
  | ok reached =>
    have hdot : (tree.enter reached ".").toBool = true ↔ tree.node? reached = some .directory := by
      cases henter : tree.enter reached "." with
      | ok next => simpa [Except.toBool] using (enter_dot_eq_ok_iff.1 henter).2
      | error =>
        have hno : ¬tree.node? reached = some .directory := by
          intro hdirectory
          rw [enter_dot_eq_ok_iff.2 ⟨rfl, hdirectory⟩] at henter
          contradiction
        simpa [Except.toBool] using hno
    simp [hdot]

theorem isDirectory_of_append {others : List String}
    (h : tree.isDirectory start (names ++ others) = true) : tree.isDirectory start names = true := by
  obtain ⟨place, hfold, hplace⟩ := isDirectory_iff.1 h
  obtain ⟨through, hnames, hothers⟩ := foldlM_enter_append_eq_ok_iff.1 hfold
  exact isDirectory_iff.2 ⟨through, hnames, isDirectory_of_foldlM hothers hplace⟩

theorem isDirectory_filter (h : tree.isDirectory start names = true) :
    tree.isDirectory start (names.filter (· ≠ ".")) = true := by
  obtain ⟨place, hfold, hplace⟩ := isDirectory_iff.1 h
  exact isDirectory_iff.2 ⟨place, foldlM_enter_filter hfold, hplace⟩

end Leading

/--
A tree has grown if nothing of it is lost and all that is new are directories, at some of the given
places.
-/
structure Grows (isNew : Place → Prop) (tree grown : FileTree) : Prop where
  here_eq : grown.here = tree.here
  node?_eq : ∀ place, grown.node? place = tree.node? place ∨
    isNew place ∧ tree.node? place = none ∧ grown.node? place = some .directory

section Growing

variable {isNew : Place → Prop} {made : Except FileError Unit × FileTree}

theorem Grows.refl (isNew : Place → Prop) (tree : FileTree) : Grows isNew tree tree where
  here_eq := rfl
  node?_eq _ := .inl rfl

theorem Grows.trans (h : Grows isNew tree grown) (hlast : Grows isNew grown last) :
    Grows isNew tree last where
  here_eq := hlast.here_eq.trans h.here_eq
  node?_eq place := by
    obtain heq | ⟨hnew, hnone, hmade⟩ := h.node?_eq place
    . rw [← heq]
      exact hlast.node?_eq place
    . obtain heq | ⟨_, hnone', _⟩ := hlast.node?_eq place
      . exact .inr ⟨hnew, hnone, heq.trans hmade⟩
      . rw [hmade] at hnone'
        contradiction

theorem Grows.isDirectory (h : Grows isNew tree grown)
    (hplace : tree.node? place = some .directory) : grown.node? place = some .directory := by
  obtain heq | ⟨_, _, hmade⟩ := h.node?_eq place
  . rw [heq, hplace]
  . exact hmade

theorem exists_of_makeDirectory (h : tree.makeDirectory start names = .ok grown) :
    ∃ name directory, tree.place? start names = .ok (some (name :: directory)) ∧
      tree.node? (name :: directory) = none ∧ grown = tree.put (name :: directory) .directory := by
  unfold makeDirectory at h
  rw [bind_eq_ok_iff] at h
  obtain ⟨target, htarget, h⟩ := h
  cases target with
  | none => contradiction
  | some target =>
    obtain ⟨name, directory, rfl, _⟩ := place?_eq_ok_iff.1 htarget
    dsimp only at h
    split at h
    . contradiction
    . next hnone =>
      rw [Option.not_isSome_iff_eq_none] at hnone
      exact ⟨name, directory, htarget, hnone, (Except.ok.inj h).symm⟩

theorem grows_of_makeDirectory (h : tree.makeDirectory start names = .ok grown)
    (hnew : isNew (names.foldl follow start)) : Grows isNew tree grown := by
  obtain ⟨name, directory, hplace, hnone, rfl⟩ := exists_of_makeDirectory h
  obtain ⟨_, _, heq, hname, hdots, hfold, _⟩ := place?_eq_ok_iff.1 hplace
  obtain ⟨rfl, rfl⟩ := List.cons.inj heq
  have htarget : name :: directory = names.foldl follow start := by
    obtain ⟨around, rfl⟩ := List.getLast?_eq_some_iff.1 hname
    rw [List.dropLast_concat] at hfold
    rw [List.foldl_append, List.foldl_cons, List.foldl_nil, ← eq_foldl_of_foldlM hfold, follow, if_neg hdots.1, if_neg hdots.2]
  refine ⟨rfl, ?_⟩
  intro place
  by_cases hplace : place = name :: directory
  . rw [hplace]
    exact .inr ⟨htarget ▸ hnew, hnone, node?_put_self (List.cons_ne_nil _ _)⟩
  . exact .inl (node?_put_of_ne hplace)

theorem isDirectory_of_makeDirectory (h : tree.makeDirectory start names = .ok grown) :
    grown.isDirectory start names = true := by
  obtain ⟨name, directory, hplace, hnone, rfl⟩ := exists_of_makeDirectory h
  obtain ⟨_, _, heq, hname, hdots, hfold, hdirectory⟩ := place?_eq_ok_iff.1 hplace
  obtain ⟨rfl, rfl⟩ := List.cons.inj heq
  have hself : (tree.put (name :: directory) .directory).node? (name :: directory) =
      some .directory := node?_put_self (List.cons_ne_nil _ _)
  have hne : directory ≠ name :: directory := List.ne_cons_self
  obtain ⟨around, rfl⟩ := List.getLast?_eq_some_iff.1 hname
  rw [List.dropLast_concat] at hfold
  refine isDirectory_iff.2 ⟨name :: directory, ?_, hself⟩
  rw [foldlM_enter_concat_eq_ok_iff]
  refine ⟨directory, foldlM_enter_put _ (List.cons_ne_nil _ _) (by simp [hnone]) hfold, ?_⟩
  apply enter_child _ hdots
  . rw [hself]
    rfl
  . rw [node?_put_of_ne hne, hdirectory]

theorem grows_makeWithin (hmade : Grows isNew tree made.2) (hnew : isNew (names.foldl follow start)) :
    Grows isNew tree (tree.makeWithin start names made).2 := by
  unfold makeWithin
  split
  . next h => exact grows_of_makeDirectory h hnew
  . split
    . exact hmade
    . split
      . next h => exact hmade.trans (grows_of_makeDirectory h hnew)
      . exact hmade
  . exact Grows.refl isNew tree

theorem isOk_settled (tree : FileTree) (start : Place) (names : List String) (error : FileError) :
    (if tree.isDirectory start names then .ok () else .error error : Except FileError Unit).isOk =
      tree.isDirectory start names := by
  cases tree.isDirectory start names <;> rfl

theorem isDirectory_makeWithin (hmade : made.1.isOk = false → made.2.isDirectory start names = false) :
    (tree.makeWithin start names made).2.isDirectory start names =
      (tree.makeWithin start names made).1.isOk := by
  unfold makeWithin
  split
  . next h => exact isDirectory_of_makeDirectory h
  . split
    . exact hmade rfl
    . split
      . next h => exact isDirectory_of_makeDirectory h
      . exact (isOk_settled _ start names _).symm
  . exact (isOk_settled _ start names _).symm

theorem isDirectory_makeAll (hfail : (tree.makeAll start names).1.isOk = false) :
    (tree.makeAll start names).2.isDirectory start names.reverse = false := by
  induction names with
  | nil => contradiction
  | cons name around ih =>
    unfold makeAll at hfail ⊢
    rw [isDirectory_makeWithin, hfail]
    intro haround
    rw [List.reverse_cons, Bool.eq_false_iff]
    intro hdirectory
    have hnot := ih haround
    rw [isDirectory_of_append hdirectory] at hnot
    contradiction

theorem grows_makeAll
    (hnew : ∀ before, before <+: names.reverse → isNew (before.foldl follow start)) :
    Grows isNew tree (tree.makeAll start names).2 := by
  induction names with
  | nil => exact Grows.refl isNew tree
  | cons name around ih =>
    unfold makeAll
    apply grows_makeWithin
    . apply ih
      intro before hbefore
      rw [List.reverse_cons] at hnew
      exact hnew before (hbefore.trans (List.prefix_append _ _))
    . exact hnew _ (List.prefix_refl _)

section Path

variable (tree : FileTree) (path : String)

/--
Whether a place is one that the names at the start of a path lead to.
-/
def IsOnWay (start : Place) (names : List String) (place : Place) : Prop :=
  ∃ before, before <+: names ∧ place = before.foldl follow start

theorem isOnWay_of_filter {before : List String} (h : before <+: names.filter (· ≠ ".")) :
    IsOnWay start names (before.foldl follow start) := by
  obtain ⟨after, h⟩ := h
  obtain ⟨first, rest, rfl, rfl, _⟩ := List.filter_eq_append_iff.1 h.symm
  exact ⟨first, List.prefix_append _ _, foldl_follow_filter start first⟩

theorem grows_makeDirectories :
    Grows (IsOnWay (tree.origin path) (FilePath.names path)) tree (tree.makeDirectories path).2 := by
  unfold makeDirectories
  apply grows_makeWithin
  . apply grows_makeAll
    intro before hbefore
    rw [List.reverse_reverse] at hbefore
    exact isOnWay_of_filter (hbefore.trans (List.dropLast_prefix _))
  . exact ⟨_, List.prefix_refl _, rfl⟩

/--
Making directories succeeds just if it leads to a directory in the end.
-/
theorem isDirectory_makeDirectories :
    (tree.makeDirectories path).2.isDirectory (tree.origin path) (FilePath.names path) =
      (tree.makeDirectories path).1.isOk := by
  apply isDirectory_makeWithin
  intro hfail
  have hnot := isDirectory_makeAll hfail
  rw [List.reverse_reverse] at hnot
  rw [Bool.eq_false_iff] at hnot ⊢
  intro hdirectory
  obtain ⟨rest, hrest⟩ := List.dropLast_prefix ((FilePath.names path).filter (· ≠ "."))
  apply hnot
  apply isDirectory_of_append
  rw [hrest]
  exact isDirectory_filter hdirectory

end Path

end Growing

end Workday.FileTree
