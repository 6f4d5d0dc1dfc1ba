import Workday.Proofs.Settings.Saving
import Workday.Proofs.Settings.Store

/-!
This module contains what every access to files with settings leaves as it was, in any tree and whether
it succeeds or fails. Looking for settings changes nothing. Making a directory adds directories on the
way to it and nothing else. Saving and deleting change at most the one file that they are about.
-/

namespace Workday.Store

open DataDirectory FileTree Settings

inductive Access where
  | own (use : Use)
  | load (path : String)
  | saveTo (settings : Settings) (path : String)
  | filePath (directory : DataDirectory) (name : String)
  | prepare (directory : DataDirectory) (name : String)

def Access.perform (home : Option String) (tree : FileTree) : Access → Answer × FileTree
  | own use => use.perform home tree
  | load path => (.settings (Settings.load tree path), tree)
  | saveTo settings path => Use.perform.settle tree (settings.saveTo tree path)
  | filePath directory name => (.path (.ok (directory.filePath name)), tree)
  | prepare directory name =>
    (.path (directory.prepare name tree).1, (directory.prepare name tree).2)

/--
A tree to which nothing has been added but directories that names at the start of a path lead to.
-/
structure AddsDirectories (path : String) (tree left : FileTree) : Prop where
  grows : Grows (IsOnWay (tree.origin path) (FilePath.names path)) tree left
  file_iff : ∀ place data,
    left.node? place = some (.file data) ↔ tree.node? place = some (.file data)

/--
Two trees are the same apart from what is at one place.
-/
structure DiffersAt (place : Place) (tree left : FileTree) : Prop where
  here_eq : left.here = tree.here
  node?_eq : ∀ other, other ≠ place → left.node? other = tree.node? other

/--
What may come of writing a file: an error and the same tree, or a tree that differs in the file that
the path leads to.
-/
inductive WriteOutcome (path : String) (data : ByteArray) (tree : FileTree) :
    Answer × FileTree → Prop where
  | failed (error : FileError) : WriteOutcome path data tree (.done (.error error), tree)
  | written {left : FileTree} {place : Place} (hlocate : left.locate path = .ok place)
    (hfile : left.node? place = some (.file data)) (hbefore : tree.node? place ≠ some .directory)
    (hleft : DiffersAt place tree left) : WriteOutcome path data tree (.done (.ok ()), left)

/--
What may come of removing a file: an error and the same tree, also the same tree if there is nothing
at the path, or a tree without the file that the path leads to.
-/
inductive RemoveOutcome (path : String) (tree : FileTree) : Answer × FileTree → Prop where
  | failed (error : FileError) : RemoveOutcome path tree (.done (.error error), tree)
  | missing (h : tree.isPresent path = false) : RemoveOutcome path tree (.done (.ok ()), tree)
  | removed {left : FileTree} {place : Place} {data : ByteArray}
    (hlocate : tree.locate path = .ok place) (hfile : tree.node? place = some (.file data))
    (hgone : left.node? place = none) (hleft : DiffersAt place tree left) :
    RemoveOutcome path tree (.done (.ok ()), left)

variable {tree left : FileTree}

theorem differsAt_put (tree : FileTree) (place : Place) (node : Node) :
    DiffersAt place tree (tree.put place node) where
  here_eq := rfl
  node?_eq _ h := node?_put_of_ne h

theorem differsAt_erase (tree : FileTree) (place : Place) :
    DiffersAt place tree (tree.erase place) where
  here_eq := rfl
  node?_eq _ h := node?_erase_of_ne h

theorem addsDirectories_of_grows {path : String}
    (h : Grows (IsOnWay (tree.origin path) (FilePath.names path)) tree left) :
    AddsDirectories path tree left where
  grows := h
  file_iff place data := by
    obtain heq | ⟨_, hnone, hmade⟩ := h.node?_eq place
    . rw [heq]
    . rw [hnone, hmade]
      simp

theorem addsDirectories_prepare (directory : DataDirectory) (name : String) (tree : FileTree) :
    AddsDirectories directory.path tree (directory.prepare name tree).2 := by
  apply addsDirectories_of_grows
  have hgrows := grows_makeDirectories tree directory.path
  unfold DataDirectory.prepare
  split
  . exact Grows.refl _ tree
  . cases hmade : tree.makeDirectories directory.path with
    | mk result made =>
      rw [hmade] at hgrows
      cases result with
      | ok => exact hgrows
      | error => exact hgrows

theorem writeOutcome_saveTo (settings : Settings) (tree : FileTree) (path : String) :
    WriteOutcome path settings.text.toUTF8 tree
      (Use.perform.settle tree (settings.saveTo tree path)) := by
  unfold saveTo
  cases hwrite : tree.writeFile path settings.text.toUTF8 with
  | error error => exact .failed error
  | ok written =>
    obtain ⟨name, directory, hto⟩ := exists_writesTo_of_writeFile hwrite
    rw [writeFile_of_writesTo hto] at hwrite
    cases hwrite
    exact .written (locate_put hto) (node?_put_self (List.cons_ne_nil _ _)) hto.not_isDirectory
      (differsAt_put _ _ _)

theorem eq_filePath_of_prepare {directory : DataDirectory} {name path : String}
    (h : directory.prepare name tree = (.ok path, left)) : path = directory.filePath name := by
  unfold DataDirectory.prepare at h
  split at h
  . cases h
    rfl
  . split at h
    . cases h
      rfl
    . cases h

theorem exists_writeOutcome_save (home : Option String) (settings : Settings) (tree : FileTree) :
    ∃ made, AddsDirectories (ofHome home).path tree made ∧
      WriteOutcome (settingsPath home) settings.text.toUTF8 made
        ((Use.save settings).perform home tree) := by
  have hadds := addsDirectories_prepare (ofHome home) fileName tree
  unfold Use.perform Settings.save
  cases hprepare : (ofHome home).prepare fileName tree with
  | mk result made =>
    rw [hprepare] at hadds
    refine ⟨made, hadds, ?_⟩
    cases result with
    | error error => exact .failed error
    | ok path =>
      have hwrite := writeOutcome_saveTo settings made path
      rw [eq_filePath_of_prepare hprepare] at hwrite ⊢
      dsimp only
      cases hsave : settings.saveTo made ((ofHome home).filePath fileName) with
      | error error => exact .failed error
      | ok written =>
        rw [hsave] at hwrite
        exact hwrite

theorem removeOutcome_delete (home : Option String) (tree : FileTree) :
    RemoveOutcome (settingsPath home) tree (Use.delete.perform home tree) := by
  unfold Use.perform Settings.delete
  dsimp only
  rw [← settingsPath]
  split
  . cases hremove : tree.removeFile (settingsPath home) with
    | error error => exact .failed error
    | ok left =>
      obtain ⟨place, data, hlocate, hfile, rfl⟩ := exists_of_removeFile hremove
      exact .removed hlocate hfile (node?_erase_self (ne_nil_of_file hfile)) (differsAt_erase _ _)
  . next hnot => exact .missing (Bool.eq_false_iff.2 hnot)

/--
Reading settings and looking up paths change nothing. Making the directory of a path adds directories on
the way to it, and no file becomes another, also if it fails. Saving changes no file but the one that is
written, and none if it fails. Deleting takes away at most the file with the settings, and changes
nothing if it fails or if there is no such file.
-/
theorem perform_keeps_other_files (home : Option String) (tree : FileTree) :
    let outcome (access : Access) := access.perform home tree
    (∀ path, (outcome (.load path)).2 = tree) ∧
    (outcome (.own .read)).2 = tree ∧
    (∀ directory name, (outcome (.filePath directory name)).2 = tree) ∧
    (∀ name, (outcome (.own (.filePath name))).2 = tree) ∧
    (∀ directory name,
      AddsDirectories directory.path tree (outcome (.prepare directory name)).2) ∧
    (∀ name, AddsDirectories (ofHome home).path tree (outcome (.own (.getPath name))).2) ∧
    AddsDirectories (ofHome home).path tree (outcome (.own .path)).2 ∧
    (∀ settings path,
      WriteOutcome path settings.text.toUTF8 tree (outcome (.saveTo settings path))) ∧
    (∀ settings, ∃ made, AddsDirectories (ofHome home).path tree made ∧
      WriteOutcome (settingsPath home) settings.text.toUTF8 made (outcome (.own (.save settings)))) ∧
    RemoveOutcome (settingsPath home) tree (outcome (.own .delete)) := by
  intro outcome
  refine ⟨fun _ => rfl, rfl, fun _ _ => rfl, fun _ => rfl, ?_, ?_, ?_, ?_, ?_, ?_⟩
  . exact fun directory name => addsDirectories_prepare directory name tree
  . exact fun name => addsDirectories_prepare (ofHome home) name tree
  . exact addsDirectories_prepare (ofHome home) fileName tree
  . exact fun settings path => writeOutcome_saveTo settings tree path
  . exact fun settings => exists_writeOutcome_save home settings tree
  . exact removeOutcome_delete home tree

-- A directory that was made on the way stays, also if the way ends at a file.
example :
    let tree : FileTree := ⟨[], [(["file"], .file ByteArray.empty)]⟩
    let outcome := (⟨"new/../file/data"⟩ : DataDirectory).prepare "config.json" tree
    outcome.1 = .error .alreadyExists ∧ tree.isPresent "new" = false ∧
      outcome.2.isPresent "new" = true := by
  decide +kernel

end Workday.Store
