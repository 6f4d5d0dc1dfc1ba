import Workday.Proofs.FileTree

/-!
This module contains what making directories does to a tree.
-/

namespace Workday.FileTree

open Json (bind_eq_ok_iff)

variable {tree other : FileTree} {start place : Place} {names : List String}

section Walking

theorem isDirectory_of_enter {name : String} {next : Place} (h : tree.enter place name = .ok next) :
    tree.node? place = some .directory :=
  (enter_eq_ok_iff.1 h).1

theorem foldlM_enter_cons_eq_ok_iff {name : String} {next : Place} :
    (name :: names).foldlM tree.enter start = .ok next ↔
      ∃ through, tree.enter start name = .ok through ∧ names.foldlM tree.enter through = .ok next := by
  rw [List.foldlM_cons, bind_eq_ok_iff]

theorem foldlM_enter_append_eq_ok_iff {others : List String} {next : Place} :
    (names ++ others).foldlM tree.enter start = .ok next ↔
      ∃ through, names.foldlM tree.enter start = .ok through ∧
        others.foldlM tree.enter through = .ok next := by
  rw [List.foldlM_append, bind_eq_ok_iff]

theorem foldlM_enter_concat_eq_ok_iff {name : String} {next : Place} :
    (names ++ [name]).foldlM tree.enter start = .ok next ↔
      ∃ through, names.foldlM tree.enter start = .ok through ∧ tree.enter through name = .ok next := by
  rw [foldlM_enter_append_eq_ok_iff]
  simp only [List.foldlM_cons, List.foldlM_nil, bind_pure]

-- A way that ends at a directory leads through directories only, so it starts at one.
theorem isDirectory_of_foldlM (hfold : names.foldlM tree.enter start = .ok place)
    (hplace : tree.node? place = some .directory) : tree.node? start = some .directory := by
  cases names with
  | nil =>
    cases hfold
    exact hplace
  | cons name names =>
    obtain ⟨through, henter, _⟩ := foldlM_enter_cons_eq_ok_iff.1 hfold
    exact isDirectory_of_enter henter

theorem foldlM_enter_mono
    (hkept : ∀ place, tree.node? place = some .directory → other.node? place = some .directory)
    (hfold : names.foldlM tree.enter start = .ok place) (hplace : tree.node? place = some .directory) :
    names.foldlM other.enter start = .ok place := by
  induction names generalizing start with
  | nil => exact hfold
  | cons name names ih =>
    obtain ⟨through, henter, hfold⟩ := foldlM_enter_cons_eq_ok_iff.1 hfold
    refine foldlM_enter_cons_eq_ok_iff.2 ⟨through, ?_, ih hfold⟩
    have hthrough := hkept _ (isDirectory_of_foldlM hfold hplace)
    rw [enter_eq_ok_iff] at henter ⊢
    obtain ⟨hstart, hdot | hdots | ⟨hdot, hdots, _, heq⟩⟩ := henter
    . exact ⟨hkept _ hstart, .inl hdot⟩
    . exact ⟨hkept _ hstart, .inr (.inl hdots)⟩
    . refine ⟨hkept _ hstart, .inr (.inr ⟨hdot, hdots, ?_, heq⟩)⟩
      rw [← heq, hthrough]
      rfl

-- A single dot leads nowhere else.
theorem foldlM_enter_filter (hfold : names.foldlM tree.enter start = .ok place) :
    (names.filter (· ≠ ".")).foldlM tree.enter start = .ok place := by
  induction names generalizing start with
  | nil => exact hfold
  | cons name names ih =>
    obtain ⟨through, henter, hfold⟩ := foldlM_enter_cons_eq_ok_iff.1 hfold
    rw [List.filter_cons]
    split
    . exact foldlM_enter_cons_eq_ok_iff.2 ⟨through, henter, ih hfold⟩
    . next hdot =>
      have hdot : name = "." := by simpa using hdot
      rw [hdot, enter_dot_eq_ok_iff] at henter
      rw [← henter.1]
      exact ih hfold

theorem enter_child {name : String} (hplace : tree.node? place = some .directory)
    (hname : name ≠ "." ∧ name ≠ "..") (hchild : (tree.node? (name :: place)).isSome = true) :
    tree.enter place name = .ok (name :: place) :=
  enter_eq_ok_iff.2 ⟨hplace, .inr (.inr ⟨hname.1, hname.2, hchild, rfl⟩)⟩

theorem enter_missing {name : String} (hplace : tree.node? place = some .directory)
    (hname : name ≠ "." ∧ name ≠ "..") (hchild : tree.node? (name :: place) = none) :
    tree.enter place name = .error .notFound := by
  unfold enter
  rw [hplace]
  dsimp only
  rw [if_neg hname.1, if_neg hname.2, hchild]
  rfl

theorem foldlM_enter_reverse {inner : Place} (hplace : tree.node? place = some .directory)
    (hinner : ∀ own, own ≠ [] → own <:+ inner → tree.node? (own ++ place) = some .directory)
    (hnames : ∀ name ∈ inner, name ≠ "." ∧ name ≠ "..") :
    inner.reverse.foldlM tree.enter place = .ok (inner ++ place) ∧
      tree.node? (inner ++ place) = some .directory := by
  induction inner with
  | nil => exact ⟨rfl, hplace⟩
  | cons name outer ih =>
    have hself := hinner _ (List.cons_ne_nil _ _) (List.suffix_refl _)
    obtain ⟨hfold, houter⟩ := ih
      (fun own hne hown => hinner own hne (hown.trans (List.suffix_cons _ _)))
      (fun name hname => hnames name (List.mem_cons_of_mem _ hname))
    refine ⟨?_, hself⟩
    rw [List.reverse_cons, foldlM_enter_concat_eq_ok_iff]
    refine ⟨outer ++ place, hfold, ?_⟩
    apply enter_child houter (hnames name List.mem_cons_self)
    rw [← List.cons_append, hself]
    rfl

end Walking

/--
Put directories at a place below another one and at those in between.
-/
def putAll (tree : FileTree) (around : Place) : Place → FileTree
  | [] => tree
  | name :: outer => (tree.putAll around outer).put (name :: outer ++ around) .directory

section Missing

variable {around inner : Place} {known : List String}

theorem here_putAll (tree : FileTree) (around inner : Place) :
    (tree.putAll around inner).here = tree.here := by
  induction inner with
  | nil => rfl
  | cons name outer ih => exact ih

theorem node?_putAll_of_ne {place : Place}
    (h : ∀ own, own ≠ [] → own <:+ inner → place ≠ own ++ around) :
    (tree.putAll around inner).node? place = tree.node? place := by
  induction inner with
  | nil => rfl
  | cons name outer ih =>
    unfold putAll
    rw [node?_put_of_ne (h _ (List.cons_ne_nil _ _) (List.suffix_refl _))]
    apply ih
    intro own hne hown
    exact h own hne (hown.trans (List.suffix_cons _ _))

theorem node?_putAll_self {own : Place} (hne : own ≠ []) (hown : own <:+ inner) :
    (tree.putAll around inner).node? (own ++ around) = some .directory := by
  induction inner with
  | nil => exact absurd (List.suffix_nil.1 hown) hne
  | cons name outer ih =>
    unfold putAll
    by_cases heq : own ++ around = name :: outer ++ around
    . rw [heq]
      exact node?_put_self (List.cons_ne_nil _ _)
    . rw [node?_put_of_ne heq]
      obtain rfl | hown := List.suffix_cons_iff.1 hown
      . exact absurd rfl heq
      . exact ih hown

/--
Names lead to a directory that has nothing at a place within it or on the way to there.
-/
structure Lacks (tree : FileTree) (start : Place) (known : List String) (around inner : Place) :
    Prop where
  foldlM_eq : known.foldlM tree.enter start = .ok around
  isDirectory : tree.node? around = some .directory
  node?_eq : ∀ own, own ≠ [] → own <:+ inner → tree.node? (own ++ around) = none
  ne_dots : ∀ name ∈ inner, name ≠ "." ∧ name ≠ ".."

theorem Lacks.outer {name : String} {outer : Place}
    (h : tree.Lacks start known around (name :: outer)) : tree.Lacks start known around outer where
  foldlM_eq := h.foldlM_eq
  isDirectory := h.isDirectory
  node?_eq own hne hown := h.node?_eq own hne (hown.trans (List.suffix_cons _ _))
  ne_dots name hname := h.ne_dots name (List.mem_cons_of_mem _ hname)

theorem Lacks.filter (h : tree.Lacks start known around inner) :
    tree.Lacks start (known.filter (· ≠ ".")) around inner :=
  { h with foldlM_eq := foldlM_enter_filter h.foldlM_eq }

theorem Lacks.node?_putAll_outer {name : String} {outer : Place}
    (h : tree.Lacks start known around (name :: outer)) :
    (tree.putAll around outer).node? (name :: outer ++ around) = none := by
  rw [node?_putAll_of_ne, h.node?_eq _ (List.cons_ne_nil _ _) (List.suffix_refl _)]
  intro own _ hown heq
  have hle := hown.length_le
  have hlength := congrArg List.length heq
  simp only [List.length_append, List.length_cons] at hlength
  omega

theorem Lacks.isDirectory_putAll (h : tree.Lacks start known around inner)
    (hplace : tree.node? place = some .directory) :
    (tree.putAll around inner).node? place = some .directory := by
  rw [node?_putAll_of_ne, hplace]
  rintro own hne hown rfl
  rw [h.node?_eq own hne hown] at hplace
  contradiction

theorem Lacks.foldlM_putAll (h : tree.Lacks start known around inner) :
    (known ++ inner.reverse).foldlM (tree.putAll around inner).enter start = .ok (inner ++ around) ∧
      (tree.putAll around inner).node? (inner ++ around) = some .directory := by
  have hknown := foldlM_enter_mono (fun _ => h.isDirectory_putAll) h.foldlM_eq h.isDirectory
  obtain ⟨hinner, hdirectory⟩ := foldlM_enter_reverse (h.isDirectory_putAll h.isDirectory)
    (fun own => node?_putAll_self) h.ne_dots
  exact ⟨foldlM_enter_append_eq_ok_iff.2 ⟨around, hknown, hinner⟩, hdirectory⟩

theorem Lacks.foldlM_eq_error (h : tree.Lacks start known around inner) (hne : inner ≠ []) :
    (known ++ inner.reverse).foldlM tree.enter start = .error .notFound := by
  -- The outermost of the names is missing already.
  obtain ⟨rest, first, rfl⟩ := (List.eq_nil_or_concat inner).resolve_left hne
  rw [List.concat_eq_append] at h ⊢
  have hfirst := h.node?_eq [first] (List.cons_ne_nil _ _) (List.suffix_append _ _)
  have henter := enter_missing h.isDirectory (h.ne_dots first (by simp)) hfirst
  rw [List.reverse_concat, List.foldlM_append, h.foldlM_eq]
  change (rest.reverse.cons first).foldlM tree.enter around = _
  rw [List.foldlM_cons, henter]
  rfl

theorem makeDirectory_of_place? {target : Place}
    (hplace : tree.place? start names = .ok (some target)) (hnone : tree.node? target = none) :
    tree.makeDirectory start names = .ok (tree.put target .directory) := by
  unfold makeDirectory
  rw [hplace, bind_eq_ok_iff]
  refine ⟨some target, rfl, ?_⟩
  dsimp only
  rw [hnone]
  rfl

theorem Lacks.makeDirectory_putAll {name : String} {outer : Place}
    (h : tree.Lacks start known around (name :: outer)) :
    (tree.putAll around outer).makeDirectory start (known ++ (name :: outer).reverse) =
      .ok (tree.putAll around (name :: outer)) := by
  obtain ⟨hfold, hdirectory⟩ := h.outer.foldlM_putAll
  refine makeDirectory_of_place? ?_ h.node?_putAll_outer
  rw [List.reverse_cons, ← List.append_assoc, place?_eq_ok_iff]
  refine ⟨name, outer ++ around, rfl, List.getLast?_concat, h.ne_dots name List.mem_cons_self, ?_,
    hdirectory⟩
  rw [List.dropLast_concat]
  exact hfold

theorem Lacks.makeDirectory_eq_error {name : String} {outer : Place}
    (h : tree.Lacks start known around (name :: outer)) (hne : outer ≠ []) :
    tree.makeDirectory start (known ++ (name :: outer).reverse) = .error .notFound := by
  unfold makeDirectory place?
  rw [List.reverse_cons, ← List.append_assoc, List.dropLast_concat, h.outer.foldlM_eq_error hne]
  rfl

theorem Lacks.makeWithin_eq {name : String} {outer : Place} {made : Except FileError Unit × FileTree}
    (h : tree.Lacks start known around (name :: outer))
    (hmade : outer ≠ [] → made = (.ok (), tree.putAll around outer)) :
    tree.makeWithin start (known ++ (name :: outer).reverse) made =
      (.ok (), tree.putAll around (name :: outer)) := by
  have hmake := h.makeDirectory_putAll
  unfold makeWithin
  by_cases hne : outer = []
  . rw [hne] at hmake ⊢
    change tree.makeDirectory start _ = _ at hmake
    rw [hmake]
  . rw [h.makeDirectory_eq_error hne, hmade hne]
    dsimp only
    rw [hmake]

theorem Lacks.makeAll_eq (h : tree.Lacks start known around inner) (hne : inner ≠ []) :
    tree.makeAll start (inner ++ known.reverse) = (.ok (), tree.putAll around inner) := by
  induction inner with
  | nil => contradiction
  | cons name outer ih =>
    unfold makeAll
    have hnames : (name :: (outer ++ known.reverse)).reverse = known ++ (name :: outer).reverse := by
      simp
    rw [List.cons_append]
    dsimp only
    rw [hnames]
    exact h.makeWithin_eq (ih h.outer)

/--
All directories that are missing on a path can be made if the first of them is within a directory.
-/
theorem Lacks.makeDirectories_eq {path : String}
    (h : tree.Lacks (tree.origin path) known around inner) (hne : inner ≠ [])
    (hnames : FilePath.names path = known ++ inner.reverse) :
    tree.makeDirectories path = (.ok (), tree.putAll around inner) := by
  obtain ⟨name, outer, rfl⟩ := List.exists_cons_of_ne_nil hne
  have haround : ((known ++ (name :: outer).reverse).filter (· ≠ ".")).dropLast.reverse =
      outer ++ (known.filter (· ≠ ".")).reverse := by
    have hkept : (name :: outer).reverse.filter (· ≠ ".") = (name :: outer).reverse := by
      rw [List.filter_eq_self]
      intro name hname
      simpa using (h.ne_dots name (List.mem_reverse.1 hname)).1
    rw [List.filter_append, hkept, List.reverse_cons, ← List.append_assoc, List.dropLast_concat]
    simp
  unfold makeDirectories
  dsimp only
  rw [hnames, haround]
  exact h.makeWithin_eq fun hne => h.outer.filter.makeAll_eq hne

end Missing

end Workday.FileTree
