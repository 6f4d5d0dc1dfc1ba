import Workday.FileTree
import Workday.Json.Fault

/-!
This module contains what writing a file does to a tree. It puts the file at one place, which is in a
directory and was none itself, so that every path that leads through directories only leads where it
did before, and the path that was written leads to the new file.
-/

namespace Workday.FileTree

open Json (bind_eq_ok_iff)

variable {tree : FileTree} {place other : Place} {node : Node} {path : String}

theorem lookup_filter_ne {nodes : List (Place × Node)} (h : other ≠ place) :
    (nodes.filter fun entry => entry.1 != place).lookup other = nodes.lookup other := by
  induction nodes with
  | nil => rfl
  | cons entry nodes ih =>
    obtain ⟨at_, found⟩ := entry
    by_cases hplace : at_ = place
    . rw [List.filter_cons_of_neg (by simp [hplace]), ih, List.lookup_cons]
      rw [hplace, beq_eq_false_iff_ne.2 h]
    . rw [List.filter_cons_of_pos (by simp [hplace]), List.lookup_cons, List.lookup_cons, ih]

theorem node?_put_self (h : place ≠ []) : (tree.put place node).node? place = some node := by
  unfold node? put
  rw [if_neg (by simpa using h)]
  exact List.lookup_cons_self

theorem node?_put_of_ne (h : other ≠ place) : (tree.put place node).node? other = tree.node? other := by
  unfold node? put
  split
  . rfl
  . dsimp only
    rw [List.lookup_cons, beq_eq_false_iff_ne.2 h]
    exact lookup_filter_ne h

theorem node?_erase_self (h : place ≠ []) : (tree.erase place).node? place = none := by
  unfold node? erase
  rw [if_neg (by simpa using h), List.lookup_eq_none_iff]
  intro entry hentry
  have hne : entry.1 ≠ place := by simpa using (List.mem_filter.1 hentry).2
  exact bne_iff_ne.2 hne.symm

theorem node?_erase_of_ne (h : other ≠ place) : (tree.erase place).node? other = tree.node? other := by
  unfold node? erase
  split
  . rfl
  . exact lookup_filter_ne h

theorem isDirectory_of_put {data : ByteArray} (hplace : place ≠ [])
    (h : (tree.put place (.file data)).node? other = some .directory) :
    tree.node? other = some .directory := by
  by_cases heq : other = place
  . rw [heq, node?_put_self hplace] at h
    cases h
  . rwa [node?_put_of_ne heq] at h

theorem isDirectory_of_erase (hplace : place ≠ [])
    (h : (tree.erase place).node? other = some .directory) : tree.node? other = some .directory := by
  by_cases heq : other = place
  . rw [heq, node?_erase_self hplace] at h
    cases h
  . rwa [node?_erase_of_ne heq] at h

theorem enter_eq_ok_iff {name : String} {next : Place} :
    tree.enter place name = .ok next ↔
      tree.node? place = some .directory ∧
        (name = "." ∧ next = place ∨ name = ".." ∧ next = place.tail ∨
          name ≠ "." ∧ name ≠ ".." ∧ (tree.node? (name :: place)).isSome = true ∧
            next = name :: place) := by
  unfold enter
  split
  . next h => simp [h]
  . next h => simp [h]
  . next h =>
    split
    . next hdot => simp [h, hdot, eq_comm (b := next)]
    . next hdot =>
      split
      . next hdots => simp [h, hdots, eq_comm (b := next)]
      . next hdots =>
        split
        . next hsome => simp [h, hdot, hdots, hsome, eq_comm (b := next)]
        . next hnone => simp [hdot, hdots, hnone]

-- A place that is no directory is on no way through a tree, so that putting a node there blocks none.
theorem enter_put (node : Node) {name : String} {next : Place} (htarget : place ≠ [])
    (hplace : tree.node? place ≠ some .directory) (h : tree.enter other name = .ok next) :
    (tree.put place node).enter other name = .ok next := by
  rw [enter_eq_ok_iff] at h ⊢
  obtain ⟨hdirectory, hnext⟩ := h
  have hne : other ≠ place := by
    intro heq
    exact hplace (heq ▸ hdirectory)
  rw [node?_put_of_ne hne]
  refine ⟨hdirectory, ?_⟩
  obtain hdot | hdots | ⟨hdot, hdots, hsome, heq⟩ := hnext
  . exact .inl hdot
  . exact .inr (.inl hdots)
  . refine .inr (.inr ⟨hdot, hdots, ?_, heq⟩)
    by_cases hchild : name :: other = place
    . rw [hchild, node?_put_self htarget]
      rfl
    . rwa [node?_put_of_ne hchild]

theorem foldlM_enter_put (node : Node) {names : List String} {start next : Place} (htarget : place ≠ [])
    (hplace : tree.node? place ≠ some .directory) (h : names.foldlM tree.enter start = .ok next) :
    names.foldlM (tree.put place node).enter start = .ok next := by
  induction names generalizing start with
  | nil => exact h
  | cons name names ih =>
    rw [List.foldlM_cons] at h ⊢
    cases henter : tree.enter start name with
    | error error =>
      rw [henter] at h
      contradiction
    | ok through =>
      rw [henter] at h
      rw [enter_put node htarget hplace henter]
      exact ih h

section Located

variable {data : ByteArray}

theorem isPresent_of_locate (h : tree.locate path = .ok place) : tree.isPresent path = true := by
  unfold isPresent
  rw [h]

theorem isPresent_of_error {error : FileError} (h : tree.locate path = .error error) :
    tree.isPresent path = false := by
  unfold isPresent
  rw [h]

theorem readFile_of_locate (h : tree.locate path = .ok place)
    (hfile : tree.node? place = some (.file data)) : tree.readFile path = .ok data := by
  unfold readFile
  rw [h, bind_eq_ok_iff]
  refine ⟨place, rfl, ?_⟩
  rw [hfile]

theorem removeFile_of_locate (h : tree.locate path = .ok place)
    (hfile : tree.node? place = some (.file data)) :
    tree.removeFile path = .ok (tree.erase place) := by
  unfold removeFile
  rw [h, bind_eq_ok_iff]
  refine ⟨place, rfl, ?_⟩
  rw [hfile]

theorem ne_nil_of_file (h : tree.node? place = some (.file data)) : place ≠ [] := by
  rintro rfl
  simp [node?] at h

theorem exists_of_removeFile {left : FileTree} (h : tree.removeFile path = .ok left) :
    ∃ place data, tree.locate path = .ok place ∧ tree.node? place = some (.file data) ∧
      left = tree.erase place := by
  unfold removeFile at h
  rw [bind_eq_ok_iff] at h
  obtain ⟨place, hlocate, h⟩ := h
  split at h
  . next data hfile =>
    cases h
    exact ⟨place, data, hlocate, hfile, rfl⟩
  . cases h
  . cases h

theorem fromUTF8?_toUTF8 (text : String) : String.fromUTF8? text.toUTF8 = some text :=
  dif_pos text.isValidUTF8

theorem readText_of_readFile {text : String} (h : tree.readFile path = .ok text.toUTF8) :
    tree.readText path = .ok text := by
  unfold readText
  rw [h, bind_eq_ok_iff]
  refine ⟨text.toUTF8, rfl, ?_⟩
  rw [fromUTF8?_toUTF8]

theorem exists_locate_of_readText {text : String} (h : tree.readText path = .ok text) :
    ∃ place data, tree.locate path = .ok place ∧ tree.node? place = some (.file data) := by
  simp only [readText, readFile, bind_eq_ok_iff] at h
  obtain ⟨data, ⟨place, hlocate, hfile⟩, _⟩ := h
  split at hfile
  . next data hnode => exact ⟨place, data, hlocate, hnode⟩
  . cases hfile
  . cases hfile

theorem isPresent_of_readText {text : String} (h : tree.readText path = .ok text) :
    tree.isPresent path = true := by
  obtain ⟨place, data, hlocate, _⟩ := exists_locate_of_readText h
  exact isPresent_of_locate hlocate

end Located

/--
The path leads to a name in a directory, and the node of that name, if there is one, is no directory.
-/
structure WritesTo (tree : FileTree) (path name : String) (directory : Place) : Prop where
  isEmpty_eq : path.isEmpty = false
  endsInSlash_eq : FilePath.endsInSlash path = false
  getLast?_eq : (FilePath.names path).getLast? = some name
  ne_dots : name ≠ "." ∧ name ≠ ".."
  foldlM_eq : (FilePath.names path).dropLast.foldlM tree.enter (tree.origin path) = .ok directory
  isDirectory : tree.node? directory = some .directory
  not_isDirectory : tree.node? (name :: directory) ≠ some .directory

theorem enter_dot_eq_ok_iff {next : Place} :
    tree.enter place "." = .ok next ↔ next = place ∧ tree.node? place = some .directory := by
  rw [enter_eq_ok_iff]
  simp [and_comm]

theorem place?_eq_ok_iff {start target : Place} {names : List String} :
    tree.place? start names = .ok (some target) ↔
      ∃ name directory, target = name :: directory ∧ names.getLast? = some name ∧
        (name ≠ "." ∧ name ≠ "..") ∧ names.dropLast.foldlM tree.enter start = .ok directory ∧
          tree.node? directory = some .directory := by
  simp only [place?, bind_eq_ok_iff, enter_dot_eq_ok_iff]
  constructor
  . intro ⟨directory, hfold, _, ⟨rfl, hdirectory⟩, h⟩
    split at h
    . cases h
    . cases h
    . cases h
    . next name hdot hdots hname =>
      have heq : name :: directory = target := by simpa using h
      refine ⟨name, directory, heq.symm, hname, ⟨?_, ?_⟩, hfold, hdirectory⟩
      . exact fun h => hdot (h ▸ rfl)
      . exact fun h => hdots (h ▸ rfl)
  . intro ⟨name, directory, htarget, hname, ⟨hdot, hdots⟩, hfold, hdirectory⟩
    refine ⟨directory, hfold, directory, ⟨rfl, hdirectory⟩, ?_⟩
    rw [hname, htarget]
    split
    . contradiction
    . next h => exact absurd (Option.some.inj h) hdot
    . next h => exact absurd (Option.some.inj h) hdots
    . next h => rw [Option.some.inj h]

theorem WritesTo.place?_eq {name : String} {directory : Place}
    (h : tree.WritesTo path name directory) :
    tree.place? (tree.origin path) (FilePath.names path) = .ok (some (name :: directory)) :=
  place?_eq_ok_iff.2
    ⟨name, directory, rfl, h.getLast?_eq, h.ne_dots, h.foldlM_eq, h.isDirectory⟩

theorem writeFile_of_writesTo {name : String} {directory : Place}
    (h : tree.WritesTo path name directory) (data : ByteArray) :
    tree.writeFile path data = .ok (tree.put (name :: directory) (.file data)) := by
  unfold writeFile
  rw [h.isEmpty_eq, if_neg Bool.false_ne_true, bind_eq_ok_iff]
  refine ⟨_, h.place?_eq, ?_⟩
  dsimp only
  rw [h.endsInSlash_eq, if_neg Bool.false_ne_true]
  split
  . next hdirectory => exact absurd hdirectory h.not_isDirectory
  . rfl

theorem exists_writesTo_of_writeFile {data : ByteArray} {written : FileTree}
    (h : tree.writeFile path data = .ok written) :
    ∃ name directory, tree.WritesTo path name directory := by
  unfold writeFile at h
  split at h
  . cases h
  . next hpath =>
    rw [bind_eq_ok_iff] at h
    obtain ⟨target, htarget, h⟩ := h
    cases target with
    | none => cases h
    | some target =>
      obtain ⟨name, directory, rfl, hname, hdots, hfold, hdirectory⟩ := place?_eq_ok_iff.1 htarget
      dsimp only at h
      split at h
      . cases h
      . next hslash =>
        split at h
        . cases h
        . next hnone =>
          refine ⟨name, directory, ?_, ?_, hname, hdots, hfold, hdirectory, hnone⟩
          . exact Bool.eq_false_iff.2 hpath
          . exact Bool.eq_false_iff.2 hslash

/--
A path can be written if some file can be written there.
-/
def IsWritable (tree : FileTree) (path : String) : Prop :=
  ∃ data written, tree.writeFile path data = .ok written

section Written

variable {name : String} {directory : Place} {data : ByteArray}

-- The directories on the way are left as they were, since the written place was none of them.
theorem locate_put (h : tree.WritesTo path name directory) :
    (tree.put (name :: directory) (.file data)).locate path = .ok (name :: directory) := by
  obtain ⟨around, hnames⟩ := List.getLast?_eq_some_iff.1 h.getLast?_eq
  have hfold := h.foldlM_eq
  rw [hnames, List.dropLast_concat] at hfold
  have hfold := foldlM_enter_put (.file data) (List.cons_ne_nil _ _) h.not_isDirectory hfold
  have hne : directory ≠ name :: directory := List.ne_cons_self
  have henter : (tree.put (name :: directory) (.file data)).enter directory name =
      .ok (name :: directory) := by
    rw [enter_eq_ok_iff, node?_put_of_ne hne, node?_put_self (List.cons_ne_nil _ _)]
    exact ⟨h.isDirectory, .inr (.inr ⟨h.ne_dots.1, h.ne_dots.2, rfl, rfl⟩)⟩
  unfold locate
  rw [h.isEmpty_eq, if_neg Bool.false_ne_true, hnames, List.foldlM_append, bind_eq_ok_iff]
  refine ⟨name :: directory, ?_, ?_⟩
  . rw [bind_eq_ok_iff]
    refine ⟨directory, hfold, ?_⟩
    rw [List.foldlM_cons, henter]
    rfl
  . rw [h.endsInSlash_eq, if_neg Bool.false_ne_true]

theorem isPresent_put (h : tree.WritesTo path name directory) :
    (tree.put (name :: directory) (.file data)).isPresent path = true :=
  isPresent_of_locate (locate_put h)

theorem readFile_put (h : tree.WritesTo path name directory) :
    (tree.put (name :: directory) (.file data)).readFile path = .ok data :=
  readFile_of_locate (locate_put h) (node?_put_self (List.cons_ne_nil _ _))

theorem readText_put (h : tree.WritesTo path name directory) (text : String) :
    (tree.put (name :: directory) (.file text.toUTF8)).readText path = .ok text :=
  readText_of_readFile (readFile_put h)

end Written

/--
A text can be written to every path to which anything can be, and is read from there again.
-/
theorem exists_writeFile_of_isWritable (h : tree.IsWritable path) (text : String) :
    ∃ written, tree.writeFile path text.toUTF8 = .ok written ∧ written.isPresent path = true ∧
      written.readText path = .ok text := by
  obtain ⟨data, written, hwritten⟩ := h
  obtain ⟨name, directory, hto⟩ := exists_writesTo_of_writeFile hwritten
  exact ⟨_, writeFile_of_writesTo hto text.toUTF8, isPresent_put hto, readText_put hto text⟩

end Workday.FileTree
