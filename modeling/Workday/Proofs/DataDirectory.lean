import Workday.Proofs.FileTree.Directories
import Workday.Settings.Storage

/-!
This module contains the paths of the data directory and of the file in it. Their names are those of
the home directory, followed by names of the program's own.
-/

namespace Workday

namespace FilePath

theorem toList_append_slash (directory path : String) :
    (directory ++ "/" ++ path).toList = directory.toList ++ '/' :: path.toList := by
  simp

theorem names_append_slash (directory path : String) :
    names (directory ++ "/" ++ path) = names directory ++ names path := by
  unfold names
  rw [toList_append_slash, List.splitOn_append_cons_self, List.filter_append, List.map_append]

theorem isAbsolute_append {directory : String} (h : directory ≠ "") (path : String) :
    isAbsolute (directory ++ path) = isAbsolute directory := by
  have hne : directory.toList ≠ [] := by simpa using h
  unfold isAbsolute
  rw [String.toList_append, List.head?_append, List.head?_eq_some_head hne, Option.some_or]

theorem endsInSlash_append {path : String} (h : path ≠ "") (directory : String) :
    endsInSlash (directory ++ path) = endsInSlash path := by
  have hne : path.toList ≠ [] := by simpa using h
  unfold endsInSlash
  rw [String.toList_append, List.getLast?_append, List.getLast?_eq_some_getLast hne, Option.some_or]

theorem join_of_relative {directory path : String} (hpath : isAbsolute path = false)
    (hne : directory ≠ "") (hslash : endsInSlash directory = false) :
    join directory path = directory ++ "/" ++ path := by
  unfold join
  unfold endsInSlash at hslash
  rw [hpath, if_neg Bool.false_ne_true, hslash]
  simp [hne]

end FilePath

namespace DataDirectory

open FilePath
open Json (bind_eq_ok_iff)

def ownPlace : Place := ["worklog", "lacodda", "share", ".local"]

variable (tree : FileTree) (home : Option String)

theorem path_ofHome :
    (ofHome home).path = home.getD "." ++ "/" ++ ".local/share/lacodda/worklog" := by
  have hshare : endsInSlash (home.getD "." ++ "/.local/share") = false :=
    (endsInSlash_append (by decide) _).trans (by decide)
  have hvendor : endsInSlash (home.getD "." ++ "/.local/share" ++ "/" ++ "lacodda") = false :=
    (endsInSlash_append (by decide) _).trans (by decide)
  unfold ofHome
  rw [join_of_relative rfl _ hshare, join_of_relative rfl _ hvendor]
  . simp [String.append_assoc]
  . simp
  . simp

theorem endsInSlash_path : endsInSlash (ofHome home).path = false := by
  rw [path_ofHome, endsInSlash_append (by decide)]
  decide

theorem path_ne_empty : (ofHome home).path ≠ "" := by
  rw [path_ofHome]
  simp

theorem isEmpty_path : (ofHome home).path.isEmpty = false := by
  simp [path_ne_empty]

theorem names_path : names (ofHome home).path = names (home.getD ".") ++ ownPlace.reverse := by
  rw [path_ofHome, names_append_slash]
  rfl

theorem origin_path : tree.origin (ofHome home).path = tree.origin (home.getD "." ++ "/") := by
  unfold FileTree.origin
  rw [path_ofHome, isAbsolute_append (by simp)]

variable {tree home} in
theorem foldlM_of_locate_home {place : Place} (h : tree.locate (home.getD "." ++ "/") = .ok place) :
    (names (home.getD ".")).foldlM tree.enter (tree.origin (ofHome home).path) = .ok place ∧
      tree.node? place = some .directory := by
  have hnames : names (home.getD "." ++ "/") = names (home.getD ".") := by
    rw [← String.append_empty (s := home.getD "." ++ "/"), names_append_slash]
    exact List.append_nil _
  have hslash : endsInSlash (home.getD "." ++ "/") = true :=
    (endsInSlash_append (by decide) _).trans (by decide)
  have hempty : (home.getD "." ++ "/").isEmpty = false := by simp
  unfold FileTree.locate at h
  rw [hempty, hnames, hslash] at h
  simp only [Bool.false_eq_true, ↓reduceIte, bind_eq_ok_iff] at h
  obtain ⟨reached, hfold, hdot⟩ := h
  obtain ⟨rfl, hdirectory⟩ := FileTree.enter_dot_eq_ok_iff.1 hdot
  rw [origin_path]
  exact ⟨hfold, hdirectory⟩

theorem filePath_eq {name : String} (h : isAbsolute name = false) :
    (ofHome home).filePath name = (ofHome home).path ++ "/" ++ name :=
  join_of_relative h (path_ne_empty home) (endsInSlash_path home)

section File

def settingsPath : String := (ofHome home).filePath Settings.fileName

theorem settingsPath_eq : settingsPath home = (ofHome home).path ++ "/" ++ Settings.fileName :=
  filePath_eq home rfl

theorem names_settingsPath :
    names (settingsPath home) = names (ofHome home).path ++ [Settings.fileName] := by
  rw [settingsPath_eq, names_append_slash]
  rfl

theorem isEmpty_settingsPath : (settingsPath home).isEmpty = false := by
  rw [settingsPath_eq]
  simp

theorem endsInSlash_settingsPath : endsInSlash (settingsPath home) = false := by
  rw [settingsPath_eq, endsInSlash_append (by decide)]
  decide

theorem origin_settingsPath : tree.origin (settingsPath home) = tree.origin (ofHome home).path := by
  unfold FileTree.origin
  rw [settingsPath_eq, String.append_assoc, isAbsolute_append (path_ne_empty home)]

theorem locate_path :
    tree.locate (ofHome home).path =
      (names (ofHome home).path).foldlM tree.enter (tree.origin (ofHome home).path) := by
  unfold FileTree.locate
  rw [isEmpty_path, if_neg Bool.false_ne_true, endsInSlash_path]
  exact bind_pure _

theorem locate_settingsPath :
    tree.locate (settingsPath home) =
      tree.locate (ofHome home).path >>= fun place => tree.enter place Settings.fileName := by
  rw [locate_path]
  unfold FileTree.locate
  rw [isEmpty_settingsPath, if_neg Bool.false_ne_true, endsInSlash_settingsPath, names_settingsPath,
    origin_settingsPath, List.foldlM_append]
  simp only [List.foldlM_cons, List.foldlM_nil, bind_pure]
  exact bind_pure _

variable {tree home} in
theorem writesTo_settingsPath {place : Place} (hlocate : tree.locate (ofHome home).path = .ok place)
    (hplace : tree.node? place = some .directory)
    (hfile : tree.node? (Settings.fileName :: place) ≠ some .directory) :
    tree.WritesTo (settingsPath home) Settings.fileName place where
  isEmpty_eq := isEmpty_settingsPath home
  endsInSlash_eq := endsInSlash_settingsPath home
  getLast?_eq := by rw [names_settingsPath, List.getLast?_concat]
  ne_dots := by decide
  foldlM_eq := by rw [names_settingsPath, List.dropLast_concat, origin_settingsPath, ← locate_path, hlocate]
  isDirectory := hplace
  not_isDirectory := hfile

end File

end DataDirectory

end Workday
