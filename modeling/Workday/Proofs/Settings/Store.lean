import Workday.Proofs.DataDirectory
import Workday.Proofs.Settings

/-!
This module contains what the file of settings amounts to. Whatever is done with it, starting from a
home directory in which the program has nothing yet, it is a single cell that holds the settings
saved last, and the data directory and the file are all that is ever touched.
-/

namespace Workday.Store

open DataDirectory FileTree Settings

inductive Use where
  | save (settings : Settings)
  | delete
  | read
  | path
  | filePath (name : String)
  | getPath (name : String)

inductive Answer where
  | done (result : Except FileError Unit)
  | settings (result : Except Unusable Settings)
  | path (result : Except FileError String)

namespace Use

def perform (home : Option String) (tree : FileTree) : Use → Answer × FileTree
  | .save settings => (.done (settings.save tree home).1, (settings.save tree home).2)
  | .delete => settle (Settings.delete tree home)
  | .read => (.settings (Settings.read tree home), tree)
  | .path => getPath fileName
  | .filePath name => (.path (.ok ((ofHome home).filePath name)), tree)
  | .getPath name => getPath name
where
  settle : Except FileError FileTree → Answer × FileTree
    | .ok left => (.done (.ok ()), left)
    | .error error => (.done (.error error), tree)
  getPath (name : String) : Answer × FileTree :=
    (.path ((ofHome home).prepare name tree).1, ((ofHome home).prepare name tree).2)

def performAll (home : Option String) (tree : FileTree) (uses : List Use) : FileTree :=
  uses.foldl (fun tree use => (use.perform home tree).2) tree

theorem perform_delete_of_ok {home : Option String} {tree left : FileTree}
    (h : Settings.delete tree home = .ok left) :
    Use.delete.perform home tree = (.done (.ok ()), left) := by
  rw [perform, h, perform.settle]

def makesDirectory : Use → Bool
  | .save _ | .path | .getPath _ => true
  | .delete | .read | .filePath _ => false

def keep (kept : Option Settings) : Use → Option Settings
  | .save settings => some settings
  | .delete => none
  | .read | .path | .filePath _ | .getPath _ => kept

/--
The settings of the last save that no delete followed.
-/
def kept (uses : List Use) : Option Settings :=
  uses.foldl keep none

def readBack : Option Settings → Except Unusable Settings
  | none => .ok Settings.default
  | some settings =>
    match settings.check with
    | .error cause => .error (.invalid cause)
    | .ok _ => .ok settings

end Use

/--
A home directory is fresh if there is nothing on the way to the data directory.
-/
structure IsFresh (tree : FileTree) (home : Option String) (place : Place) : Prop where
  locate_eq : tree.locate (home.getD "." ++ "/") = .ok place
  node?_eq : ∀ names, tree.node? (names ++ ".local" :: place) = none

def filePlace (place : Place) : Place := fileName :: (ownPlace ++ place)

def IsOwn (place other : Place) : Prop :=
  ∃ own, own ≠ [] ∧ own <:+ ownPlace ∧ other = own ++ place

/--
A tree that differs from an initial one only in the data directory, which it has or not, and in the
file, which holds the settings that are kept.
-/
structure Keeps (initial : FileTree) (place : Place) (isMade : Bool) (kept : Option Settings)
    (tree : FileTree) : Prop where
  here_eq : tree.here = initial.here
  own_eq : ∀ other, IsOwn place other → tree.node? other = if isMade then some .directory else none
  file_eq : tree.node? (filePlace place) = kept.map fun settings => .file settings.text.toUTF8
  elsewhere : ∀ other, other ≠ filePlace place → ¬IsOwn place other →
    tree.node? other = initial.node? other
  isMade_of_kept : kept.isSome = true → isMade = true

section Places

variable {tree : FileTree} {home : Option String} {place other : Place}

theorem exists_names_of_isOwn (h : IsOwn place other) :
    ∃ names, other = names ++ ".local" :: place := by
  obtain ⟨own, hne, ⟨before, hown⟩, rfl⟩ := h
  obtain ⟨names, last, rfl⟩ := (List.eq_nil_or_concat own).resolve_left hne
  have hlast := congrArg List.getLast? hown
  rw [List.concat_eq_append, ← List.append_assoc, List.getLast?_concat] at hlast
  refine ⟨names, ?_⟩
  rw [Option.some.inj hlast]
  simp

theorem IsFresh.own_eq (h : IsFresh tree home place) (hown : IsOwn place other) :
    tree.node? other = none := by
  obtain ⟨names, rfl⟩ := exists_names_of_isOwn hown
  exact h.node?_eq names

theorem IsFresh.file_eq (h : IsFresh tree home place) : tree.node? (filePlace place) = none :=
  h.node?_eq ["config.json", "worklog", "lacodda", "share"]

theorem not_isOwn_filePlace (place : Place) : ¬IsOwn place (filePlace place) := by
  rintro ⟨own, _, hown, heq⟩
  have hle := hown.length_le
  have hlength := congrArg List.length heq
  simp only [filePlace, List.length_append, List.length_cons] at hlength
  omega

theorem IsFresh.keeps (h : IsFresh tree home place) : Keeps tree place false none tree where
  here_eq := rfl
  own_eq _ hown := h.own_eq hown
  file_eq := h.file_eq
  elsewhere _ _ _ := rfl
  isMade_of_kept hkept := by contradiction

end Places

section Steps

variable {initial tree : FileTree} {home : Option String} {place other : Place} {isMade : Bool}
variable {kept : Option Settings}

theorem Keeps.kept_eq_none (h : Keeps initial place false kept tree) : kept = none := by
  cases kept with
  | none => rfl
  | some => exact absurd (h.isMade_of_kept rfl) Bool.false_ne_true

theorem Keeps.isDirectory (hfresh : IsFresh initial home place)
    (h : Keeps initial place isMade kept tree) (hother : initial.node? other = some .directory) :
    tree.node? other = some .directory := by
  rw [h.elsewhere, hother]
  . rintro rfl
    rw [hfresh.file_eq] at hother
    contradiction
  . intro hown
    rw [hfresh.own_eq hown] at hother
    contradiction

theorem Keeps.foldlM_home (hfresh : IsFresh initial home place)
    (h : Keeps initial place isMade kept tree) :
    (FilePath.names (home.getD ".")).foldlM tree.enter (tree.origin (ofHome home).path) = .ok place ∧
      tree.node? place = some .directory := by
  obtain ⟨hfold, hdirectory⟩ := foldlM_of_locate_home hfresh.locate_eq
  have horigin : tree.origin (ofHome home).path = initial.origin (ofHome home).path := by
    rw [origin, h.here_eq, ← origin]
  rw [horigin]
  exact ⟨foldlM_enter_mono (fun _ => h.isDirectory hfresh) hfold hdirectory,
    h.isDirectory hfresh hdirectory⟩

theorem ne_dots_of_mem_ownPlace : ∀ name ∈ ownPlace, name ≠ "." ∧ name ≠ ".." := by decide

theorem Keeps.locate_path (hfresh : IsFresh initial home place)
    (h : Keeps initial place true kept tree) :
    tree.locate (ofHome home).path = .ok (ownPlace ++ place) ∧
      tree.node? (ownPlace ++ place) = some .directory := by
  obtain ⟨hfold, hdirectory⟩ := h.foldlM_home hfresh
  have hown := fun own hne hsuffix => h.own_eq _ ⟨own, hne, hsuffix, rfl⟩
  obtain ⟨hinner, hlast⟩ := foldlM_enter_reverse hdirectory hown ne_dots_of_mem_ownPlace
  rw [DataDirectory.locate_path, names_path, foldlM_enter_append_eq_ok_iff]
  exact ⟨⟨place, hfold, hinner⟩, hlast⟩

theorem Keeps.lacks (hfresh : IsFresh initial home place) (h : Keeps initial place false kept tree) :
    tree.Lacks (tree.origin (ofHome home).path) (FilePath.names (home.getD ".")) place ownPlace where
  foldlM_eq := (h.foldlM_home hfresh).1
  isDirectory := (h.foldlM_home hfresh).2
  node?_eq own hne hown := h.own_eq _ ⟨own, hne, hown, rfl⟩
  ne_dots := ne_dots_of_mem_ownPlace

theorem Keeps.locate_path_eq_error (hfresh : IsFresh initial home place)
    (h : Keeps initial place false kept tree) :
    tree.locate (ofHome home).path = .error .notFound := by
  rw [DataDirectory.locate_path, names_path]
  exact (h.lacks hfresh).foldlM_eq_error (List.cons_ne_nil _ _)

theorem Keeps.putAll (h : Keeps initial place false none tree) :
    Keeps initial place true none (tree.putAll place ownPlace) where
  here_eq := by rw [here_putAll, h.here_eq]
  own_eq other hown := by
    obtain ⟨own, hne, hsuffix, rfl⟩ := hown
    exact node?_putAll_self hne hsuffix
  file_eq := by
    rw [node?_putAll_of_ne, h.file_eq]
    intro own hne hown heq
    exact not_isOwn_filePlace place ⟨own, hne, hown, heq⟩
  elsewhere other hfile hown := by
    rw [node?_putAll_of_ne, h.elsewhere other hfile hown]
    intro own hne hsuffix heq
    exact hown ⟨own, hne, hsuffix, heq⟩
  isMade_of_kept _ := rfl

theorem Keeps.prepare (hfresh : IsFresh initial home place)
    (h : Keeps initial place isMade kept tree) (name : String) :
    ∃ made, (ofHome home).prepare name tree = (.ok ((ofHome home).filePath name), made) ∧
      Keeps initial place true kept made := by
  unfold DataDirectory.prepare
  cases isMade with
  | true =>
    refine ⟨tree, ?_, h⟩
    unfold isPresent
    rw [(h.locate_path hfresh).1]
    rfl
  | false =>
    obtain rfl := h.kept_eq_none
    refine ⟨tree.putAll place ownPlace, ?_, h.putAll⟩
    unfold isPresent
    rw [h.locate_path_eq_error hfresh,
      (h.lacks hfresh).makeDirectories_eq (List.cons_ne_nil _ _) (names_path home)]
    rfl

theorem Keeps.writesTo (hfresh : IsFresh initial home place)
    (h : Keeps initial place true kept tree) :
    tree.WritesTo (settingsPath home) fileName (ownPlace ++ place) := by
  obtain ⟨hlocate, hdirectory⟩ := h.locate_path hfresh
  apply writesTo_settingsPath hlocate hdirectory
  have hfile := h.file_eq
  unfold filePlace at hfile
  rw [hfile]
  cases kept <;> simp

theorem Keeps.put (h : Keeps initial place true kept tree) (settings : Settings) :
    Keeps initial place true (some settings)
      (tree.put (filePlace place) (.file settings.text.toUTF8)) where
  here_eq := h.here_eq
  own_eq other hown := by
    rw [node?_put_of_ne, h.own_eq other hown]
    rintro rfl
    exact not_isOwn_filePlace place hown
  file_eq := node?_put_self (List.cons_ne_nil _ _)
  elsewhere other hfile hown := by rw [node?_put_of_ne hfile, h.elsewhere other hfile hown]
  isMade_of_kept _ := rfl

theorem Keeps.erase (h : Keeps initial place isMade kept tree) :
    Keeps initial place isMade none (tree.erase (filePlace place)) where
  here_eq := h.here_eq
  own_eq other hown := by
    rw [node?_erase_of_ne, h.own_eq other hown]
    rintro rfl
    exact not_isOwn_filePlace place hown
  file_eq := node?_erase_self (List.cons_ne_nil _ _)
  elsewhere other hfile hown := by rw [node?_erase_of_ne hfile, h.elsewhere other hfile hown]
  isMade_of_kept hkept := by contradiction

theorem Keeps.save (hfresh : IsFresh initial home place)
    (h : Keeps initial place isMade kept tree) (settings : Settings) :
    ∃ written, settings.save tree home = (.ok (), written) ∧
      Keeps initial place true (some settings) written := by
  obtain ⟨made, hprepare, hmade⟩ := h.prepare hfresh fileName
  refine ⟨_, ?_, hmade.put settings⟩
  unfold Settings.save
  rw [hprepare]
  dsimp only
  rw [saveTo, ← settingsPath, writeFile_of_writesTo (hmade.writesTo hfresh)]
  rfl

theorem Keeps.locate_settingsPath (hfresh : IsFresh initial home place)
    (h : Keeps initial place isMade kept tree) :
    tree.locate (settingsPath home) =
      if kept.isSome then .ok (filePlace place) else .error .notFound := by
  rw [DataDirectory.locate_settingsPath]
  have hfile := h.file_eq
  cases isMade with
  | false =>
    rw [h.locate_path_eq_error hfresh, h.kept_eq_none]
    rfl
  | true =>
    obtain ⟨hlocate, hdirectory⟩ := h.locate_path hfresh
    rw [hlocate]
    change tree.enter (ownPlace ++ place) fileName = _
    cases kept with
    | none => exact enter_missing hdirectory (by decide) hfile
    | some =>
      apply enter_child hdirectory (by decide)
      unfold filePlace at hfile
      rw [hfile]
      rfl

theorem Keeps.delete (hfresh : IsFresh initial home place)
    (h : Keeps initial place isMade kept tree) :
    ∃ left, Settings.delete tree home = .ok left ∧ Keeps initial place isMade none left ∧
      (kept = none → left = tree) := by
  have hlocate := h.locate_settingsPath hfresh
  have hfile := h.file_eq
  unfold Settings.delete
  dsimp only
  rw [← settingsPath]
  cases kept with
  | none =>
    rw [isPresent_of_error hlocate, if_neg Bool.false_ne_true]
    exact ⟨tree, rfl, h, fun _ => rfl⟩
  | some settings =>
    rw [isPresent_of_locate hlocate, if_pos rfl, removeFile_of_locate hlocate hfile]
    exact ⟨_, rfl, h.erase, by simp⟩

theorem Keeps.read (hfresh : IsFresh initial home place)
    (h : Keeps initial place isMade kept tree) :
    Settings.read tree home = Use.readBack kept := by
  have hlocate := h.locate_settingsPath hfresh
  have hfile := h.file_eq
  unfold Settings.read
  rw [← settingsPath]
  cases kept with
  | none =>
    unfold load
    rw [isPresent_of_error hlocate, if_neg Bool.false_ne_true, Use.readBack]
  | some settings =>
    have htext := readText_of_readFile (readFile_of_locate hlocate hfile)
    exact load_of_parse (isPresent_of_locate hlocate) htext (parse_text settings)

theorem Keeps.perform (hfresh : IsFresh initial home place)
    (h : Keeps initial place isMade kept tree) (use : Use) :
    Keeps initial place (isMade || use.makesDirectory) (Use.keep kept use)
      (use.perform home tree).2 := by
  have hmade := Bool.or_true isMade
  have hsame := Bool.or_false isMade
  cases use with
  | save settings =>
    obtain ⟨written, hsave, hkeeps⟩ := h.save hfresh settings
    rw [Use.perform, hsave, Use.makesDirectory, hmade]
    exact hkeeps
  | delete =>
    obtain ⟨left, hdelete, hkeeps, _⟩ := h.delete hfresh
    rw [Use.perform_delete_of_ok hdelete, Use.makesDirectory, hsame]
    exact hkeeps
  | read => rwa [Use.makesDirectory, hsame]
  | filePath name => rwa [Use.makesDirectory, hsame]
  | path =>
    obtain ⟨made, hprepare, hkeeps⟩ := h.prepare hfresh fileName
    rw [Use.perform, Use.perform.getPath, hprepare, Use.makesDirectory, hmade]
    exact hkeeps
  | getPath name =>
    obtain ⟨made, hprepare, hkeeps⟩ := h.prepare hfresh name
    rw [Use.perform, Use.perform.getPath, hprepare, Use.makesDirectory, hmade]
    exact hkeeps

theorem Keeps.performAll (hfresh : IsFresh initial home place)
    (h : Keeps initial place isMade kept tree) (uses : List Use) :
    Keeps initial place (isMade || uses.any Use.makesDirectory) (uses.foldl Use.keep kept)
      (Use.performAll home tree uses) := by
  induction uses generalizing tree isMade kept with
  | nil => rwa [List.any_nil, Bool.or_false]
  | cons use uses ih =>
    rw [List.any_cons, ← Bool.or_assoc]
    exact ih (h.perform hfresh use)

theorem Keeps.isPresent_path (hfresh : IsFresh initial home place)
    (h : Keeps initial place isMade kept tree) : tree.isPresent (ofHome home).path = isMade := by
  cases isMade with
  | true => exact isPresent_of_locate (h.locate_path hfresh).1
  | false => exact isPresent_of_error (h.locate_path_eq_error hfresh)

end Steps

/--
After any uses of a fresh home directory, the settings that are read are those of the last save that
no delete followed, or the default ones if there is none. Nothing else fails, the data directory is
there as soon as a use has made it, and everything beside it and the file is as it was.
-/
theorem performAll_keeps_last_saved (initial : FileTree) (home : Option String) (place : Place)
    (hfresh : IsFresh initial home place) (uses : List Use) :
    let reached := Use.performAll home initial uses
    let answer (use : Use) := (use.perform home reached).1
    (Use.kept uses = none → answer .read = .settings (.ok Settings.default)) ∧
    (∀ settings, Use.kept uses = some settings →
      ((∀ jira, settings.jira = some jira → TaskId.isProjectKey jira.project.toList = true) →
        answer .read = .settings (.ok settings)) ∧
      ∀ jira, settings.jira = some jira → TaskId.isProjectKey jira.project.toList = false →
        answer .read = .settings (.error (.invalid (.project jira.project))) ∧
          (Unusable.invalid (.project jira.project)).message =
            marked (Message.invalidProjectKey jira.project).text) ∧
    (∀ settings, answer (.save settings) = .done (.ok ())) ∧
    answer .delete = .done (.ok ()) ∧
    (Use.kept uses = none → (Use.delete.perform home reached).2 = reached) ∧
    answer .path = .path (.ok ((ofHome home).filePath fileName)) ∧
    (∀ name, answer (.filePath name) = .path (.ok ((ofHome home).filePath name)) ∧
      answer (.getPath name) = .path (.ok ((ofHome home).filePath name))) ∧
    reached.isPresent (ofHome home).path = uses.any Use.makesDirectory ∧
    (∀ other, IsOwn place other → reached.node? other =
      if uses.any Use.makesDirectory then some .directory else none) ∧
    ∀ other, other ≠ filePlace place → ¬IsOwn place other →
      reached.node? other = initial.node? other := by
  intro reached answer
  have hkeeps : Keeps initial place (uses.any Use.makesDirectory) (Use.kept uses) reached :=
    hfresh.keeps.performAll hfresh uses
  have hread : answer .read = .settings (Use.readBack (Use.kept uses)) :=
    congrArg Answer.settings (hkeeps.read hfresh)
  obtain ⟨left, hdelete, _, hleft⟩ := hkeeps.delete hfresh
  have hdelete := Use.perform_delete_of_ok hdelete
  have hgetPath (name : String) :
      answer (.getPath name) = .path (.ok ((ofHome home).filePath name)) := by
    obtain ⟨made, hmade, _⟩ := hkeeps.prepare hfresh name
    change Answer.path ((ofHome home).prepare name reached).1 = _
    rw [hmade]
  refine ⟨?_, ?_, ?_, congrArg Prod.fst hdelete, ?_, hgetPath fileName, fun name => ⟨rfl, hgetPath name⟩,
    hkeeps.isPresent_path hfresh, hkeeps.own_eq, hkeeps.elsewhere⟩
  . intro hnone
    rw [hread, hnone, Use.readBack]
  . intro settings hsome
    rw [hread, hsome, Use.readBack]
    constructor
    . intro hkey
      rw [check_of_isProjectKey hkey]
    . intro jira hjira hkey
      rw [check_of_not_isProjectKey hjira hkey]
      exact ⟨rfl, rfl⟩
  . intro settings
    obtain ⟨written, hsave, _⟩ := hkeeps.save hfresh settings
    change Answer.done (settings.save reached home).1 = _
    rw [hsave]
  . intro hnone
    rw [hdelete]
    exact hleft hnone

theorem performAll_keeps_overwritten :
    let initial : FileTree := ⟨["home"], [(["home"], .directory), (["notes", "home"], .directory)]⟩
    let uses : List Use := [.save ⟨some ⟨"client", "OPS", "9:00:00"⟩⟩, .delete, .delete, .save ⟨none⟩,
      .path, .save ⟨some ⟨"client", "ops", "9:00:00"⟩⟩]
    let reached (count : Nat) := Use.performAll (some "/home") initial (uses.take count)
    IsFresh initial (some "/home") ["home"] ∧
      (Use.read.perform (some "/home") (reached 3)).1 = .settings (.ok Settings.default) ∧
      (Use.read.perform (some "/home") (reached 6)).1 =
        .settings (.error (.invalid (.project "ops"))) ∧
      (reached 6).node? ["notes", "home"] = some .directory := by
  intro initial uses reached
  have hfresh : IsFresh initial (some "/home") ["home"] := by
    refine ⟨by decide +kernel, ?_⟩
    intro names
    rw [node?, if_neg (by simp), List.lookup_eq_none_iff]
    intro entry hentry
    rw [bne_iff_ne]
    intro heq
    have hforeign : ∀ entry ∈ initial.nodes.map Prod.fst, ".local" ∉ entry := by decide
    apply hforeign _ (List.mem_map_of_mem hentry)
    simp [← heq]
  obtain ⟨hdefault, _⟩ := performAll_keeps_last_saved initial _ _ hfresh (uses.take 3)
  obtain ⟨_, hsaved, _, _, _, _, _, _, _, helsewhere⟩ :=
    performAll_keeps_last_saved initial _ _ hfresh (uses.take 6)
  refine ⟨hfresh, hdefault rfl, ((hsaved _ rfl).2 _ rfl (by decide)).1, ?_⟩
  rw [helsewhere]
  . rfl
  . decide
  . intro hown
    obtain ⟨names, hnames⟩ := exists_names_of_isOwn hown
    have hforeign : ".local" ∉ ["notes", "home"] := by decide
    apply hforeign
    simp [hnames]

end Workday.Store
