import Workday.Proofs.DataDirectory
import Workday.Proofs.FileTree.Growth
import Workday.Proofs.Settings

/-!
This module contains what saving and deleting settings does to any tree. Settings that were saved are
read again. If saving fails, either nothing has changed or the data directory could not be made, and
then there was no file of settings and there is none.
-/

namespace Workday.Settings

open DataDirectory FileTree
open Json (bind_eq_ok_iff)

def place (tree : FileTree) (home : Option String) : Place :=
  fileName :: (FilePath.names (ofHome home).path).foldl follow (tree.origin (ofHome home).path)

/--
A tree has room for the file of settings if there is no directory in its place, and none comes there
when the data directory is made.
-/
structure HasRoom (tree : FileTree) (home : Option String) : Prop where
  not_isDirectory : tree.node? (place tree home) ≠ some .directory
  not_isOnWay : ¬IsOnWay (tree.origin (ofHome home).path) (FilePath.names (ofHome home).path)
    (place tree home)

def hasDirectory (tree : FileTree) (home : Option String) : Bool :=
  tree.isDirectory (tree.origin (ofHome home).path) (FilePath.names (ofHome home).path)

def IsAbsent (tree : FileTree) (home : Option String) : Prop :=
  ∃ error, tree.locate (settingsPath home) = .error error

variable {tree left : FileTree} {home : Option String}

section Absent

theorem read_of_isAbsent (h : IsAbsent tree home) : read tree home = .ok default := by
  obtain ⟨error, hlocate⟩ := h
  unfold read load
  rw [← settingsPath, isPresent_of_error hlocate, if_neg Bool.false_ne_true]

theorem readFile_of_isAbsent (h : IsAbsent tree home) :
    (tree.readFile (settingsPath home)).toOption = none := by
  obtain ⟨error, hlocate⟩ := h
  unfold readFile
  rw [hlocate]
  rfl

theorem isAbsent_of_not_isPresent (h : tree.isPresent (ofHome home).path = false) :
    IsAbsent tree home := by
  cases hlocate : tree.locate (ofHome home).path with
  | error error =>
    refine ⟨error, ?_⟩
    rw [locate_settingsPath, hlocate]
    rfl
  | ok place =>
    rw [isPresent_of_locate hlocate] at h
    cases h

-- The file is in the data directory, so there is none without that directory.
theorem isAbsent_of_not_hasDirectory (h : hasDirectory tree home = false) : IsAbsent tree home := by
  cases hlocate : tree.locate (settingsPath home) with
  | error error => exact ⟨error, hlocate⟩
  | ok reached =>
    rw [locate_settingsPath, bind_eq_ok_iff] at hlocate
    obtain ⟨directory, hdirectory, henter⟩ := hlocate
    rw [locate_path] at hdirectory
    rw [hasDirectory, isDirectory_iff.2 ⟨directory, hdirectory, isDirectory_of_enter henter⟩] at h
    cases h

end Absent

section Room

theorem origin_of_grows {isNew : Place → Prop} (h : Grows isNew tree left) (path : String) :
    left.origin path = tree.origin path := by
  unfold origin
  rw [h.here_eq]

-- No directory may come to the place of the file.
theorem HasRoom.mono (h : HasRoom tree home)
    (horigin : left.origin (ofHome home).path = tree.origin (ofHome home).path)
    (hnode : left.node? (place tree home) = some .directory →
      tree.node? (place tree home) = some .directory) : HasRoom left home := by
  have hplace : place left home = place tree home := by rw [place, place, horigin]
  refine ⟨?_, ?_⟩
  . rw [hplace]
    exact fun hdirectory => h.not_isDirectory (hnode hdirectory)
  . rw [hplace, horigin]
    exact h.not_isOnWay

theorem HasRoom.makeDirectories (h : HasRoom tree home) :
    HasRoom (tree.makeDirectories (ofHome home).path).2 home := by
  have hgrows := grows_makeDirectories tree (ofHome home).path
  apply h.mono (origin_of_grows hgrows _)
  intro hdirectory
  obtain heq | ⟨honWay, _⟩ := hgrows.node?_eq (place tree home)
  . rw [heq] at hdirectory
    exact hdirectory
  . exact absurd honWay h.not_isOnWay

theorem HasRoom.put (h : HasRoom tree home) {target : Place} (htarget : target ≠ [])
    (data : ByteArray) : HasRoom (tree.put target (.file data)) home :=
  h.mono rfl (isDirectory_of_put htarget)

theorem HasRoom.erase (h : HasRoom tree home) {target : Place} (htarget : target ≠ []) :
    HasRoom (tree.erase target) home :=
  h.mono rfl (isDirectory_of_erase htarget)

theorem HasRoom.writesTo (h : HasRoom tree home) (hdirectory : hasDirectory tree home = true) :
    ∃ directory, tree.WritesTo (settingsPath home) fileName directory := by
  obtain ⟨directory, hfold, hnode⟩ := isDirectory_iff.1 hdirectory
  refine ⟨directory, writesTo_settingsPath ?_ hnode ?_⟩
  . rw [locate_path, hfold]
  . rw [eq_foldl_of_foldlM hfold]
    exact h.not_isDirectory

theorem foldl_follow_path (tree : FileTree) (home : Option String) :
    (FilePath.names (ofHome home).path).foldl follow (tree.origin (ofHome home).path) =
      ownPlace ++ (FilePath.names (home.getD ".")).foldl follow (tree.origin (ofHome home).path) := by
  rw [names_path, List.foldl_append]
  simp [ownPlace, follow]

theorem hasRoom_of_no_way_back (hnames : ".." ∉ FilePath.names (home.getD "."))
    (hfile : tree.node? (place tree home) ≠ some .directory) : HasRoom tree home := by
  refine ⟨hfile, ?_⟩
  rintro ⟨before, ⟨after, hpath⟩, hplace⟩
  have hafter : ".." ∉ after := by
    intro hmem
    have hmem : ".." ∈ FilePath.names (ofHome home).path := by
      rw [← hpath]
      exact List.mem_append_right _ hmem
    rw [names_path, List.mem_append] at hmem
    cases hmem with
    | inl hmem => exact hnames hmem
    | inr hmem => exact absurd hmem (by decide)
  have hle := length_le_foldl_follow hafter (before.foldl follow (tree.origin (ofHome home).path))
  rw [← List.foldl_append, hpath, ← hplace, place, List.length_cons] at hle
  omega

-- On the way to the home directory there are only directories, and below it the way is too short.
theorem hasRoom_of_isPresent_home (hhome : tree.isPresent (home.getD "." ++ "/") = true)
    (hfile : tree.node? (place tree home) ≠ some .directory) : HasRoom tree home := by
  refine ⟨hfile, ?_⟩
  rintro ⟨before, ⟨after, hpath⟩, hplace⟩
  cases hlocate : tree.locate (home.getD "." ++ "/") with
  | error error =>
    rw [isPresent_of_error hlocate] at hhome
    cases hhome
  | ok reached =>
    obtain ⟨hfold, hdirectory⟩ := foldlM_of_locate_home hlocate
    rw [names_path, List.append_eq_append_iff] at hpath
    obtain ⟨rest, hnames, _⟩ | ⟨own, rfl, hown⟩ := hpath
    . rw [hnames, foldlM_enter_append_eq_ok_iff] at hfold
      obtain ⟨through, hbefore, hrest⟩ := hfold
      rw [hplace, ← eq_foldl_of_foldlM hbefore] at hfile
      exact hfile (isDirectory_of_foldlM hrest hdirectory)
    . have hle := length_foldl_follow_le reached own
      have hshort := congrArg List.length hown
      rw [List.foldl_append, ← eq_foldl_of_foldlM hfold] at hplace
      rw [← hplace, place, foldl_follow_path, ← eq_foldl_of_foldlM hfold] at hle
      simp only [List.length_cons, List.length_append, List.length_reverse] at hle hshort
      omega

end Room

section Saving

theorem prepare_of_isPresent (h : tree.isPresent (ofHome home).path = true) :
    (ofHome home).prepare fileName tree = (.ok (settingsPath home), tree) := by
  rw [prepare, if_pos h, settingsPath]

theorem prepare_of_not_isPresent (h : tree.isPresent (ofHome home).path = false) :
    (ofHome home).prepare fileName tree =
      ((tree.makeDirectories (ofHome home).path).1.map fun _ => settingsPath home,
        (tree.makeDirectories (ofHome home).path).2) := by
  rw [prepare, h, if_neg Bool.false_ne_true, settingsPath]
  cases tree.makeDirectories (ofHome home).path with
  | mk result made => cases result <;> rfl

theorem hasDirectory_makeDirectories (tree : FileTree) (home : Option String) :
    hasDirectory (tree.makeDirectories (ofHome home).path).2 home =
      (tree.makeDirectories (ofHome home).path).1.isOk := by
  have hgrows := grows_makeDirectories tree (ofHome home).path
  rw [hasDirectory, origin_of_grows hgrows]
  exact isDirectory_makeDirectories tree (ofHome home).path

theorem HasRoom.prepare_cases (h : HasRoom tree home) :
    ∃ made, HasRoom made home ∧
      ((ofHome home).prepare fileName tree = (.ok (settingsPath home), made) ∧
          (made = tree ∨ hasDirectory made home = true) ∨
        ∃ error, (ofHome home).prepare fileName tree = (.error error, made) ∧
          IsAbsent tree home ∧ IsAbsent made home) := by
  cases hpresent : tree.isPresent (ofHome home).path with
  | true => exact ⟨tree, h, .inl ⟨prepare_of_isPresent hpresent, .inl rfl⟩⟩
  | false =>
    have hprepare := prepare_of_not_isPresent hpresent
    have hroom := h.makeDirectories
    have hleads := hasDirectory_makeDirectories tree home
    cases hmade : tree.makeDirectories (ofHome home).path with
    | mk result made =>
      rw [hmade] at hprepare hroom hleads
      refine ⟨made, hroom, ?_⟩
      cases result with
      | ok => exact .inl ⟨hprepare, .inr hleads⟩
      | error error =>
        exact .inr ⟨error, hprepare, isAbsent_of_not_isPresent hpresent,
          isAbsent_of_not_hasDirectory hleads⟩

theorem HasRoom.save_cases (h : HasRoom tree home) (settings : Settings) :
    ∃ left, HasRoom left home ∧
      (settings.save tree home = (.ok (), left) ∧
          (settings.check = .ok () → read left home = .ok settings) ∨
        ∃ error, settings.save tree home = (.error error, left) ∧
          (left = tree ∨ IsAbsent tree home ∧ IsAbsent left home)) := by
  unfold save
  obtain ⟨made, hroom, ⟨hprepare, hready⟩ | ⟨error, hprepare, hbefore, hafter⟩⟩ := h.prepare_cases
  . rw [hprepare]
    dsimp only
    cases hwrite : settings.saveTo made (settingsPath home) with
    | ok written =>
      obtain ⟨name, directory, hto⟩ := exists_writesTo_of_writeFile hwrite
      rw [saveTo, writeFile_of_writesTo hto] at hwrite
      cases hwrite
      refine ⟨_, hroom.put (List.cons_ne_nil _ _) _, .inl ⟨rfl, ?_⟩⟩
      intro hcheck
      rw [read, ← settingsPath,
        load_of_parse (isPresent_put hto) (readText_put hto settings.text) (parse_text settings), hcheck]
    | error error =>
      refine ⟨made, hroom, .inr ⟨error, rfl, ?_⟩⟩
      obtain hsame | hdirectory := hready
      . exact .inl hsame
      . obtain ⟨directory, hto⟩ := hroom.writesTo hdirectory
        rw [saveTo, writeFile_of_writesTo hto] at hwrite
        cases hwrite
  . rw [hprepare]
    exact ⟨made, hroom, .inr ⟨error, rfl, .inr ⟨hbefore, hafter⟩⟩⟩

end Saving

section Deleting

theorem isAbsent_erase {target : Place} {data : ByteArray}
    (hlocate : tree.locate (settingsPath home) = .ok target)
    (hfile : tree.node? target = some (.file data)) : IsAbsent (tree.erase target) home := by
  rw [locate_settingsPath, bind_eq_ok_iff] at hlocate
  obtain ⟨directory, hdirectory, henter⟩ := hlocate
  have htarget : target = fileName :: directory := eq_follow_of_enter henter
  have hkept (place : Place) (hplace : tree.node? place = some .directory) :
      (tree.erase target).node? place = some .directory := by
    rw [node?_erase_of_ne, hplace]
    rintro rfl
    rw [hfile] at hplace
    cases hplace
  refine ⟨.notFound, ?_⟩
  have hdirectory : (tree.erase target).locate (ofHome home).path = .ok directory := by
    rw [locate_path] at hdirectory ⊢
    exact foldlM_enter_mono hkept hdirectory (isDirectory_of_enter henter)
  rw [locate_settingsPath, hdirectory]
  apply enter_missing (hkept _ (isDirectory_of_enter henter)) (by decide)
  rw [← htarget, node?_erase_self]
  rw [htarget]
  exact List.cons_ne_nil _ _

theorem HasRoom.delete_cases (h : HasRoom tree home) :
    (∃ left, HasRoom left home ∧ delete tree home = .ok left ∧ IsAbsent left home) ∨
      ∃ error, delete tree home = .error error := by
  unfold delete
  dsimp only
  rw [← settingsPath]
  split
  . cases hremove : tree.removeFile (settingsPath home) with
    | error error => exact .inr ⟨error, rfl⟩
    | ok left =>
      obtain ⟨target, data, hlocate, hfile, rfl⟩ := exists_of_removeFile hremove
      exact .inl ⟨_, h.erase (ne_nil_of_file hfile), rfl, isAbsent_erase hlocate hfile⟩
  . next hnot =>
    refine .inl ⟨tree, h, rfl, ?_⟩
    cases hlocate : tree.locate (settingsPath home) with
    | error error => exact ⟨error, hlocate⟩
    | ok target => exact absurd (isPresent_of_locate hlocate) hnot

end Deleting

end Workday.Settings
