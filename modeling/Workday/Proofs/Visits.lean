import Workday.Proofs.Setup

/-!
This module contains what becomes of the settings over many runs of the program. A run that does not
set up the program, or fails to, leaves the file of settings as it was. Once a setup has succeeded
the settings can be read for good, whatever was there before.
-/

namespace Workday

open DataDirectory FileTree

namespace Environment

variable {environment : Environment} {name value : String}

-- A line is passed over if it assigns a variable that is there.
theorem lookup_addLines (earlier : Environment) (lines : List (List UInt8))
    (h : environment.lookup name = some value) :
    (addLines environment earlier lines).lookup name = some value := by
  induction lines generalizing environment earlier with
  | nil => exact h
  | cons bytes lines ih =>
    unfold addLines
    split
    . exact h
    . split
      . exact h
      . exact ih _ h
      . next assigned value' _ =>
        apply ih
        split
        . exact h
        . next hnew =>
          rw [List.lookup_cons, beq_eq_false_iff_ne.2, h]
          rintro rfl
          simp [h] at hnew

/--
A variable that is given keeps its value.
-/
theorem lookup_complete (tree : FileTree) (h : environment.lookup name = some value) :
    (complete environment tree).lookup name = some value := by
  unfold complete
  split
  . exact lookup_addLines [] _ h
  . exact h

end Environment

structure Visit where
  today : Date
  here : Place
  environment : Environment
  terminal : Option String
  tracker : Tracker
  arguments : List String

namespace Visit

def arrive (visit : Visit) (tree : FileTree) : FileTree := { tree with here := visit.here }

def outcome (visit : Visit) (tree : FileTree) : Outcome :=
  Program.run ⟨visit.today, visit.environment, visit.arrive tree, visit.terminal, visit.tracker⟩
    visit.arguments

def home (visit : Visit) (tree : FileTree) : Option String :=
  (Environment.complete visit.environment (visit.arrive tree)).lookup "HOME"

/--
Whether a run sets up the program, or forgets its settings, and succeeds.
-/
def SetsUp (visit : Visit) (tree : FileTree) : Prop :=
  (∃ delete, Request.parse visit.arguments = .ok (.setUp delete)) ∧
    (visit.outcome tree).ending = .exited 0

def leave (tree : FileTree) (visits : List Visit) : FileTree :=
  visits.foldl (fun tree visit => (visit.outcome tree).tree) tree

/--
A run finds a home directory if that is the one it is told, and if it starts in the same directory as
the runs before, where the home directory is given by a relative path.
-/
structure Finds (visit : Visit) (home : Option String) (tree : FileTree) : Prop where
  home_eq : visit.home tree = home
  here_eq : FilePath.isAbsolute (ofHome home).path = true ∨ visit.here = tree.here

/--
Whether all runs find the same home directory.
-/
def SameHome (home : Option String) : FileTree → List Visit → Prop
  | _, [] => True
  | tree, visit :: visits =>
    visit.Finds home tree ∧ SameHome home (visit.outcome tree).tree visits

variable {tree : FileTree} {home : Option String} {visit : Visit}

section Arriving

variable (hfinds : visit.Finds home tree)
include hfinds

theorem origin_arrive : (visit.arrive tree).origin (ofHome home).path = tree.origin (ofHome home).path := by
  unfold arrive origin
  obtain habsolute | hsame := hfinds.here_eq
  . rw [if_pos habsolute, if_pos habsolute]
  . rw [hsame]

theorem locate_arrive : (visit.arrive tree).locate (settingsPath home) = tree.locate (settingsPath home) := by
  rw [locate_settingsPath, locate_settingsPath, locate_path, locate_path, origin_arrive hfinds]
  rfl

theorem readFile_arrive :
    (visit.arrive tree).readFile (settingsPath home) = tree.readFile (settingsPath home) := by
  unfold readFile
  rw [locate_arrive hfinds]
  rfl

theorem read_arrive : Settings.read (visit.arrive tree) home = Settings.read tree home := by
  unfold Settings.read Settings.load isPresent readText
  rw [← settingsPath, locate_arrive hfinds, readFile_arrive hfinds]

theorem hasRoom_arrive (h : Settings.HasRoom tree home) :
    Settings.HasRoom (visit.arrive tree) home :=
  h.mono (origin_arrive hfinds) id

theorem isAbsent_arrive : Settings.IsAbsent (visit.arrive tree) home ↔ Settings.IsAbsent tree home := by
  unfold Settings.IsAbsent
  rw [locate_arrive hfinds]

end Arriving

section Step

variable {request : Request}

theorem outcome_of_error {error : UsageError} (h : Request.parse visit.arguments = .error error) :
    (visit.outcome tree).tree = visit.arrive tree := by
  unfold outcome Program.run
  rw [h]

theorem outcome_of_ok (h : Request.parse visit.arguments = .ok request) :
    visit.outcome tree =
      Program.answer ⟨visit.today, visit.environment, visit.arrive tree, visit.terminal, visit.tracker⟩
        (Environment.complete visit.environment (visit.arrive tree)) request := by
  unfold outcome Program.run
  rw [h]

def keys? (visit : Visit) : Option (List Key) :=
  visit.terminal.map fun typed => Key.decode typed.toList

def conclusion (visit : Visit) (tree : FileTree) (delete : Bool) : Conclusion :=
  if delete then
    Setup.forget (visit.arrive tree) (visit.home tree)
  else
    Setup.run (visit.arrive tree) (visit.home tree) visit.keys?

theorem outcome_of_setUp {delete : Bool} (h : Request.parse visit.arguments = .ok (.setUp delete)) :
    visit.outcome tree =
      Program.answer.conclude (Environment.complete visit.environment (visit.arrive tree))
        (visit.conclusion tree delete) := by
  rw [outcome_of_ok h, conclusion]
  cases delete with
  | true => rw [Program.answer_forget, if_pos rfl, home]
  | false => rw [Program.answer_setUp, if_neg Bool.false_ne_true, home, keys?]

theorem tree_outcome_of_setUp {delete : Bool}
    (h : Request.parse visit.arguments = .ok (.setUp delete)) :
    (visit.outcome tree).tree = (visit.conclusion tree delete).tree := by
  rw [outcome_of_setUp h]
  rfl

theorem setsUp_iff {delete : Bool} (h : Request.parse visit.arguments = .ok (.setUp delete)) :
    visit.SetsUp tree ↔ (visit.conclusion tree delete).failure = none := by
  rw [← Conclusion.ending_eq_exited_zero_iff, SetsUp, outcome_of_setUp h]
  exact and_iff_right ⟨delete, h⟩

theorem conclusion_cases (hroom : Settings.HasRoom (visit.arrive tree) home)
    (hhome : visit.home tree = home) (delete : Bool) :
    Settings.HasRoom (visit.conclusion tree delete).tree home ∧
      ((visit.conclusion tree delete).failure = none ∧
          (∃ settings, Settings.read (visit.conclusion tree delete).tree home = .ok settings) ∨
        (visit.conclusion tree delete).failure ≠ none ∧
          ((visit.conclusion tree delete).tree = visit.arrive tree ∨
            Settings.IsAbsent (visit.arrive tree) home ∧
              Settings.IsAbsent (visit.conclusion tree delete).tree home)) := by
  unfold conclusion
  rw [hhome]
  cases delete with
  | true =>
    have hcases := Setup.forget_cases hroom
    rw [if_pos rfl]
    generalize Setup.forget (visit.arrive tree) home = conclusion at hcases ⊢
    obtain ⟨hleft, ⟨hnone, habsent⟩ | ⟨hfailure, hsame⟩⟩ := hcases
    . exact ⟨hleft, .inl ⟨hnone, _, Settings.read_of_isAbsent habsent⟩⟩
    . exact ⟨hleft, .inr ⟨hfailure, .inl hsame⟩⟩
  | false =>
    have hcases := Setup.run_cases hroom visit.keys?
    rw [if_neg Bool.false_ne_true]
    generalize Setup.run (visit.arrive tree) home visit.keys? = conclusion at hcases ⊢
    obtain ⟨hleft, ⟨hnone, settings, _, _, hread⟩ | ⟨hfailure, hcases⟩⟩ := hcases
    . exact ⟨hleft, .inl ⟨hnone, settings, hread⟩⟩
    . exact ⟨hleft, .inr ⟨hfailure, hcases⟩⟩

theorem tree_outcome_of_other (h : ∀ delete, Request.parse visit.arguments ≠ .ok (.setUp delete)) :
    (visit.outcome tree).tree = visit.arrive tree := by
  cases hparse : Request.parse visit.arguments with
  | error => rw [outcome_of_error hparse]
  | ok request =>
    rw [outcome_of_ok hparse]
    cases request with
    | log request => apply Conclusion.tree_ofRun
    | help topic => rfl
    | version => rfl
    | setUp delete => exact absurd hparse (h delete)

/--
What comes of one run: it sets up the program, and then the settings can be read, or it does not, and
then nothing has changed, or there was no file of settings and is none.
-/
theorem outcome_cases (hroom : Settings.HasRoom tree home) (hfinds : visit.Finds home tree) :
    Settings.HasRoom (visit.outcome tree).tree home ∧
      (visit.SetsUp tree ∧ (∃ settings, Settings.read (visit.outcome tree).tree home = .ok settings) ∨
        ¬visit.SetsUp tree ∧ ((visit.outcome tree).tree = visit.arrive tree ∨
          Settings.IsAbsent tree home ∧ Settings.IsAbsent (visit.outcome tree).tree home)) := by
  have hroom := hasRoom_arrive hfinds hroom
  rw [← isAbsent_arrive hfinds]
  by_cases hsetUp : ∃ delete, Request.parse visit.arguments = .ok (.setUp delete)
  . obtain ⟨delete, hparse⟩ := hsetUp
    rw [setsUp_iff hparse, tree_outcome_of_setUp hparse]
    exact conclusion_cases hroom hfinds.home_eq delete
  . rw [tree_outcome_of_other (not_exists.1 hsetUp)]
    exact ⟨hroom, .inr ⟨fun h => hsetUp h.1, .inl rfl⟩⟩

theorem readFile_outcome (hroom : Settings.HasRoom tree home) (hfinds : visit.Finds home tree)
    (hnot : ¬visit.SetsUp tree) :
    ((visit.outcome tree).tree.readFile (settingsPath home)).toOption =
      (tree.readFile (settingsPath home)).toOption := by
  obtain ⟨_, ⟨hsetsUp, _⟩ | ⟨_, hsame | ⟨hbefore, hafter⟩⟩⟩ := outcome_cases hroom hfinds
  . exact absurd hsetsUp hnot
  . rw [hsame, readFile_arrive hfinds]
  . rw [Settings.readFile_of_isAbsent hbefore, Settings.readFile_of_isAbsent hafter]

theorem exists_read_outcome (hroom : Settings.HasRoom tree home) (hfinds : visit.Finds home tree)
    (hread : ∃ settings, Settings.read tree home = .ok settings) :
    ∃ settings, Settings.read (visit.outcome tree).tree home = .ok settings := by
  obtain ⟨_, ⟨_, hread⟩ | ⟨_, hsame | ⟨_, hafter⟩⟩⟩ := outcome_cases hroom hfinds
  . exact hread
  . rwa [hsame, read_arrive hfinds]
  . exact ⟨_, Settings.read_of_isAbsent hafter⟩

end Step

section Run

variable {visits : List Visit}

theorem sameHome_append {others : List Visit} :
    SameHome home tree (visits ++ others) ↔
      SameHome home tree visits ∧ SameHome home (leave tree visits) others := by
  induction visits generalizing tree with
  | nil => simp [SameHome, leave]
  | cons visit visits ih =>
    rw [List.cons_append, SameHome, SameHome, ih]
    simp only [and_assoc]
    rfl

-- An absolute path to the home directory that is given to every run is what every run finds.
theorem sameHome_of_given {path : String}
    (habsolute : FilePath.isAbsolute (ofHome (some path)).path = true)
    (h : ∀ visit ∈ visits, visit.environment.lookup "HOME" = some path) :
    SameHome (some path) tree visits := by
  induction visits generalizing tree with
  | nil => trivial
  | cons visit visits ih =>
    rw [List.forall_mem_cons] at h
    exact ⟨⟨Environment.lookup_complete _ h.1, .inl habsolute⟩, ih h.2⟩

theorem hasRoom_leave (hroom : Settings.HasRoom tree home) (hsame : SameHome home tree visits) :
    Settings.HasRoom (leave tree visits) home := by
  induction visits generalizing tree with
  | nil => exact hroom
  | cons visit visits ih =>
    obtain ⟨hfinds, hsame⟩ := hsame
    exact ih (outcome_cases hroom hfinds).1 hsame

theorem exists_read_leave (hroom : Settings.HasRoom tree home) (hsame : SameHome home tree visits)
    (hread : ∃ settings, Settings.read tree home = .ok settings) :
    ∃ settings, Settings.read (leave tree visits) home = .ok settings := by
  induction visits generalizing tree with
  | nil => exact hread
  | cons visit visits ih =>
    obtain ⟨hfinds, hsame⟩ := hsame
    exact ih (outcome_cases hroom hfinds).1 hsame (exists_read_outcome hroom hfinds hread)

theorem ok_of_setUp {keys chosen : List Key} (hroom : Settings.HasRoom tree home)
    (hfinds : visit.Finds home tree)
    (hparse : Request.parse visit.arguments = .ok (.setUp false))
    (hzero : (visit.outcome tree).ending = .exited 0) (hkeys : visit.keys? = some keys)
    (hchosen : Choice.answer false keys = .ok (true, chosen)) :
    let offered := ((Settings.read tree home).toOption.getD Settings.default).effective
    ∃ binary project startedAt rest,
      chosen = binary ++ .enter :: (project ++ .enter :: (startedAt ++ .enter :: rest)) ∧
      (∀ key ∈ binary ++ project ++ startedAt, key.Edits) ∧
      let answered : JiraSettings := ⟨EditedLine.typed offered.binary binary,
        EditedLine.typed offered.project project, EditedLine.typed offered.startedAt startedAt⟩
      Settings.read (visit.outcome tree).tree home = .ok ⟨some answered⟩ ∧
        answered.check = .ok () := by
  have hnone := (setsUp_iff hparse).1 ⟨⟨false, hparse⟩, hzero⟩
  have hcases := Setup.run_cases (hasRoom_arrive hfinds hroom) visit.keys?
  rw [tree_outcome_of_setUp hparse]
  unfold conclusion at hnone ⊢
  rw [if_neg Bool.false_ne_true, hfinds.home_eq] at hnone ⊢
  generalize Setup.run (visit.arrive tree) home visit.keys? = conclusion at hnone hcases ⊢
  obtain ⟨_, ⟨_, settings, later, hanswers, hread⟩ | ⟨hfailure, _⟩⟩ := hcases
  . obtain ⟨keys', hkeys', hall⟩ := Setup.ok_of_answers hanswers
    rw [hkeys] at hkeys'
    obtain rfl := Option.some.inj hkeys'
    obtain ⟨jira, told, rfl, hjira⟩ := Setup.ok_of_askAll_of_chosen hall hchosen
    obtain ⟨hcheck, binary, project, startedAt, rest, hlines, hedits, rfl⟩ :=
      Setup.ok_of_askTracker hjira
    rw [read_arrive hfinds] at hread hcheck
    exact ⟨binary, project, startedAt, rest, hlines, hedits, hread, hcheck⟩
  . exact absurd hnone hfailure

end Run

/--
Over any runs that find the same home directory, the bytes of the file of settings change only in a
run that sets up the program and succeeds. After the first such run the settings can always be read,
whatever the file held before. What a setup has asked for is stored as it was answered, an empty
answer standing for the setting that was offered, and has passed all checks.

The home directory is there or its path never leads back out of a directory, as otherwise a path may
come to mean another place when directories are made on the way.
-/
theorem leave_keeps_settings (tree : FileTree) (home : Option String)
    (hhome : ".." ∉ FilePath.names (home.getD ".") ∨ tree.isPresent (home.getD "." ++ "/") = true)
    (hfile : tree.node? (Settings.place tree home) ≠ some .directory)
    (before : List Visit) (visit : Visit) (later : List Visit)
    (hsame : SameHome home tree (before ++ visit :: later)) :
    let reached := leave tree before
    let outcome := visit.outcome reached
    ((outcome.tree.readFile (settingsPath home)).toOption ≠
        (reached.readFile (settingsPath home)).toOption →
      (∃ delete, Request.parse visit.arguments = .ok (.setUp delete)) ∧
        outcome.ending = .exited 0) ∧
    ((∃ delete, Request.parse visit.arguments = .ok (.setUp delete)) → outcome.ending = .exited 0 →
      ∃ settings, Settings.read (leave outcome.tree later) home = .ok settings) ∧
    ∀ typed chosen, Request.parse visit.arguments = .ok (.setUp false) →
      outcome.ending = .exited 0 → visit.terminal = some typed →
      Choice.answer false (Key.decode typed.toList) = .ok (true, chosen) →
      let offered := ((Settings.read reached home).toOption.getD Settings.default).effective
      ∃ binary project startedAt rest,
        chosen = binary ++ .enter :: (project ++ .enter :: (startedAt ++ .enter :: rest)) ∧
        (∀ key ∈ binary ++ project ++ startedAt, key.Edits) ∧
        let answered : JiraSettings := ⟨EditedLine.typed offered.binary binary,
          EditedLine.typed offered.project project, EditedLine.typed offered.startedAt startedAt⟩
        Settings.read outcome.tree home = .ok ⟨some answered⟩ ∧ answered.check = .ok () := by
  intro reached outcome
  have hroom : Settings.HasRoom tree home := by
    obtain hnames | hpresent := hhome
    . exact Settings.hasRoom_of_no_way_back hnames hfile
    . exact Settings.hasRoom_of_isPresent_home hpresent hfile
  obtain ⟨hbefore, hfinds, hlater⟩ := sameHome_append.1 hsame
  have hroom : Settings.HasRoom reached home := hasRoom_leave hroom hbefore
  have houtcome := outcome_cases hroom hfinds
  refine ⟨?_, ?_, ?_⟩
  . intro hchanged
    have hsetsUp : visit.SetsUp reached := by
      by_contra hnot
      exact hchanged (readFile_outcome hroom hfinds hnot)
    exact hsetsUp
  . intro hsetUp hzero
    obtain ⟨hleft, ⟨_, hread⟩ | ⟨hnot, _⟩⟩ := houtcome
    . exact exists_read_leave hleft hlater hread
    . exact absurd ⟨hsetUp, hzero⟩ hnot
  . intro typed chosen hparse hzero hterminal hchosen
    apply ok_of_setUp hroom hfinds hparse hzero _ hchosen
    rw [keys?, hterminal, Option.map_some]

def sample (arguments : List String) (typed : String) : Visit where
  today := ⟨2024, 2, 29, by decide, by decide, by decide, by decide⟩
  here := ["home"]
  environment := [("HOME", "/home")]
  terminal := some typed
  tracker := ⟨fun _ _ => .exited 0 "# Title" ""⟩
  arguments := arguments

theorem leave_keeps_answers :
    let tree : FileTree := ⟨["home"], [(["home"], .directory), ([".local", "home"], .directory),
      (["share", ".local", "home"], .directory), (["lacodda", "share", ".local", "home"], .directory),
      (["worklog", "lacodda", "share", ".local", "home"], .directory),
      (["config.json", "worklog", "lacodda", "share", ".local", "home"], .file "\x7b".toUTF8)]⟩
    let before := [sample ["622"] "", sample ["init"] " \nclient\nops\n\n"]
    let visit := sample ["init"] " \nclient\nOPS\n\n"
    let later := [sample ["init"] "\x03", sample ["622"] ""]
    let outcome := visit.outcome (leave tree before)
    tree.isPresent "/home/" = true ∧
      tree.node? (Settings.place tree (some "/home")) ≠ some .directory ∧
      SameHome (some "/home") tree (before ++ visit :: later) ∧
      outcome.ending = .exited 0 ∧
      (∃ settings, Settings.read (leave outcome.tree later) (some "/home") = .ok settings) ∧
      ∃ answered, Settings.read outcome.tree (some "/home") = .ok ⟨some answered⟩ ∧
        answered.check = .ok () := by
  intro tree before visit later outcome
  have hhome : tree.isPresent "/home/" = true := by decide +kernel
  have hfile : tree.node? (Settings.place tree (some "/home")) ≠ some .directory := by
    have hplace : Settings.place tree (some "/home") =
        ["config.json", "worklog", "lacodda", "share", ".local", "home"] := by decide +kernel
    rw [hplace, show tree.node? _ = some (.file "\x7b".toUTF8) from rfl]
    simp
  have hsame : SameHome (some "/home") tree (before ++ visit :: later) :=
    sameHome_of_given (by decide +kernel) (by simp [before, visit, later, sample])
  have hparse : Request.parse visit.arguments = .ok (.setUp false) := by decide +kernel
  have hzero : outcome.ending = .exited 0 := by decide +kernel
  obtain ⟨_, hread, hanswers⟩ :=
    leave_keeps_settings tree (some "/home") (.inr hhome) hfile before visit later hsame
  obtain ⟨_, _, _, _, _, _, hanswered, hcheck⟩ :=
    hanswers " \nclient\nOPS\n\n" (Key.decode "client\nOPS\n\n".toList) hparse hzero rfl
      (by decide +kernel)
  exact ⟨hhome, hfile, hsame, hzero, hread ⟨false, hparse⟩ hzero, _, hanswered, hcheck⟩

end Visit

end Workday
