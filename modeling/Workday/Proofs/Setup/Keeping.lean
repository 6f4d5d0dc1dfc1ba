import Workday.Proofs.Setup
import Workday.Proofs.TaskId

/-!
This module contains what the setup of the program keeps of the settings that a file holds. Where
their project is a project key, they are what the questions start from, and what is not answered
otherwise stays. Where it is none they cannot be read, so the questions start from the defaults, and
the file loses all that it held.
-/

namespace Workday

open DataDirectory FileTree

namespace EditedLine

/--
Keys leave a text if they edit the empty line until it is that text.
-/
def Leaves (edits : List Key) (text : List Char) : Prop :=
  (∀ key ∈ edits, key.Edits) ∧ (edits.foldl press empty).text = text

variable {edits : List Key} {text : List Char}

theorem Leaves.answer_of_empty (h : Leaves edits []) (default : String) (rest : List Key) :
    empty.answer default (edits ++ .enter :: rest) = .ok (default, rest) := by
  rw [answer_append_enter h.1, given, h.2]
  rfl

theorem Leaves.answer_of_ne_nil (h : Leaves edits text) (hne : text ≠ []) (default : String)
    (rest : List Key) :
    empty.answer default (edits ++ .enter :: rest) = .ok (String.ofList text, rest) := by
  rw [answer_append_enter h.1, given, h.2, if_neg (by simpa using hne)]

end EditedLine

namespace Settings

/--
Whether settings are what the file of a home directory holds, whatever their project.
-/
def IsHeld (settings : Settings) (tree : FileTree) (home : Option String) : Prop :=
  ∃ text, tree.readText (settingsPath home) = .ok text ∧ parse text = .ok settings

/--
The settings that the questions start from where a file holds settings.
-/
def offered (held : Settings) : Settings :=
  if TaskId.isProjectKey held.effective.project.toList then held else default

theorem offered_eq_self_iff {held : Settings} :
    held.offered = held ↔ TaskId.isProjectKey held.effective.project.toList = true := by
  unfold offered
  split
  . next hkey => simp [hkey]
  . next hkey =>
    -- The project of the defaults is a key.
    refine ⟨?_, fun h => absurd h hkey⟩
    rintro rfl
    exact absurd (by decide) hkey

section Held

variable {tree : FileTree} {home : Option String} {held settings : Settings}

theorem IsHeld.eq (h : held.IsHeld tree home) (hsettings : settings.IsHeld tree home) :
    held = settings := by
  obtain ⟨text, hread, hparse⟩ := h
  obtain ⟨text', hread', hparse'⟩ := hsettings
  rw [hread] at hread'
  obtain rfl := Except.ok.inj hread'
  rw [hparse] at hparse'
  exact Except.ok.inj hparse'

theorem IsHeld.getD_read (h : held.IsHeld tree home) :
    (read tree home).toOption.getD default = held.offered := by
  obtain ⟨text, hread, hparse⟩ := h
  obtain ⟨place, _, hlocate, _⟩ := exists_locate_of_readText hread
  rw [read, ← settingsPath, load_of_parse (isPresent_of_locate hlocate) hread hparse, offered]
  cases hcheck : held.check with
  | ok => rw [if_pos (check_eq_ok_iff.1 hcheck)]; rfl
  | error cause =>
    rw [if_neg]
    . rfl
    . rw [← check_eq_ok_iff, hcheck]
      simp

-- A file that is there can be written again, and its directory need not be made.
theorem IsHeld.exists_save (h : held.IsHeld tree home) (settings : Settings) :
    ∃ left, settings.save tree home = (.ok (), left) ∧ settings.IsHeld left home := by
  obtain ⟨text, hread, _⟩ := h
  obtain ⟨place, data, hlocate, hfile⟩ := exists_locate_of_readText hread
  rw [locate_settingsPath, Json.bind_eq_ok_iff] at hlocate
  obtain ⟨directory, hdirectory, henter⟩ := hlocate
  have hplace : place = fileName :: directory := eq_follow_of_enter henter
  have hto : tree.WritesTo (settingsPath home) fileName directory := by
    apply writesTo_settingsPath hdirectory (isDirectory_of_enter henter)
    rw [← hplace, hfile]
    simp
  refine ⟨tree.put (fileName :: directory) (.file settings.text.toUTF8), ?_, ?_⟩
  . unfold save
    rw [prepare_of_isPresent (isPresent_of_locate hdirectory)]
    dsimp only
    rw [saveTo, writeFile_of_writesTo hto]
  . exact ⟨settings.text, readText_put hto settings.text, parse_text settings⟩

end Held

end Settings

namespace Setup

open Run EditedLine

/--
Whether keys choose the tracker, leave a project as its key, and accept what is offered for the
other settings.
-/
def NamesProject (keys : List Key) (project : List Char) : Prop :=
  ∃ binary edits startedAt rest,
    Choice.answer false keys =
      .ok (true, binary ++ .enter :: (edits ++ .enter :: (startedAt ++ .enter :: rest))) ∧
    Leaves binary [] ∧ Leaves edits project ∧ Leaves startedAt []

section Answers

variable {keys rest binary edits startedAt : List Key} {project : List Char}

theorem after_askTracker (current : JiraSettings) (hkey : TaskId.isProjectKey project = true)
    (hbinary : Leaves binary []) (hedits : Leaves edits project) (hstarted : Leaves startedAt [])
    (trace : Trace) :
    (askTracker current (binary ++ .enter :: (edits ++ .enter :: (startedAt ++ .enter :: rest)))).after
        trace =
      (if (TimeOfDay.parse? current.startedAt).isSome then
          .ok { current with project := String.ofList project }
        else .error (.invalid (.startedAt current.startedAt)), trace) := by
  unfold askTracker
  rw [ask_of_ok (hbinary.answer_of_empty _ _), pure_bind]
  dsimp only
  rw [ask_of_ok (hedits.answer_of_ne_nil (TaskId.ne_nil_of_isProjectKey hkey) _ _), pure_bind]
  dsimp only
  rw [ask_of_ok (hstarted.answer_of_empty _ _), pure_bind]
  dsimp only
  rw [check_of_project (by rwa [String.toList_ofList]), JiraSettings.startTime]
  dsimp only
  cases TimeOfDay.parse? current.startedAt <;> rfl

-- The heading that tells what is asked for is all that is recorded.
theorem after_askAll_of_names (current : Settings) (hnames : NamesProject keys project)
    (hkey : TaskId.isProjectKey project = true) (trace : Trace) :
    ∃ later, (askAll current keys).after trace =
      (if (TimeOfDay.parse? current.effective.startedAt).isSome then
          .ok ⟨some { current.effective with project := String.ofList project }⟩
        else .error (.invalid (.startedAt current.effective.startedAt)), later) := by
  obtain ⟨binary, edits, startedAt, rest, hchosen, hbinary, hedits, hstarted⟩ := hnames
  unfold askAll
  rw [ask_of_ok hchosen, pure_bind]
  dsimp only
  rw [if_pos rfl, after_bind_of_ok (after_say ..), after_bind,
    after_askTracker _ hkey hbinary hedits hstarted]
  by_cases htime : (TimeOfDay.parse? current.effective.startedAt).isSome = true
  . rw [if_pos htime, if_pos htime]
    exact ⟨_, rfl⟩
  . rw [if_neg htime, if_neg htime]
    exact ⟨_, rfl⟩

theorem after_askAll_of_not_chosen (current : Settings)
    (h : Choice.answer false keys = .ok (false, rest)) (trace : Trace) :
    (askAll current keys).after trace = (.ok current, trace) := by
  unfold askAll
  rw [ask_of_ok h, pure_bind]
  rfl

end Answers

section Saved

variable {tree : FileTree} {home : Option String} {held settings : Settings} {keys : List Key}
variable {later : Trace}

theorem run_of_answers (hheld : held.IsHeld tree home)
    (h : (askAll held.offered keys).after Trace.empty = (.ok settings, later)) :
    (run tree home (some keys)).failure = none ∧
      settings.IsHeld (run tree home (some keys)).tree home := by
  obtain ⟨left, hsave, hleft⟩ := hheld.exists_save settings
  unfold run answers
  dsimp only
  rw [hheld.getD_read, start_eq_after, h]
  dsimp only
  rw [hsave]
  exact ⟨rfl, hleft⟩

theorem run_of_refused {failure : Failure} (hheld : held.IsHeld tree home)
    (h : (askAll held.offered keys).after Trace.empty = (.error failure, later)) :
    run tree home (some keys) = ⟨some failure, tree, later⟩ := by
  unfold run answers
  dsimp only
  rw [hheld.getD_read, start_eq_after, h]

end Saved

end Setup

open Setup Settings

/--
What a setup makes of the settings that the file held, as far as its user leaves them alone. If the
user names a project only, the others are stored as they were offered, unless the start time is none.
If nothing is chosen, all are stored as they were offered. So settings are kept if their project is a
project key, and otherwise the defaults take their place.
-/
theorem run_starts_from_held (surroundings : Surroundings) {arguments : List String} {typed : String}
    {held : Settings} (hparse : Request.parse arguments = .ok (.setUp false))
    (hterminal : surroundings.terminal = some typed) :
    let home := (Environment.complete surroundings.environment surroundings.tree).lookup "HOME"
    let keys := Key.decode typed.toList
    let outcome := Program.run surroundings arguments
    let offered := held.offered.effective
    held.IsHeld surroundings.tree home →
      (∀ project, NamesProject keys project → TaskId.isProjectKey project = true →
        ((TimeOfDay.parse? offered.startedAt).isSome = true →
          outcome.ending = .exited 0 ∧
            IsHeld ⟨some ⟨offered.binary, String.ofList project, offered.startedAt⟩⟩ outcome.tree home) ∧
        ((TimeOfDay.parse? offered.startedAt).isSome = false →
          outcome.ending = .exited 1 ∧
            outcome.failure = some (.invalid (.startedAt offered.startedAt)) ∧
            outcome.tree = surroundings.tree)) ∧
      ∀ rest, Choice.answer false keys = .ok (false, rest) →
        outcome.ending = .exited 0 ∧ held.offered.IsHeld outcome.tree home ∧
          (held.IsHeld outcome.tree home ↔
            TaskId.isProjectKey held.effective.project.toList = true) := by
  intro home keys outcome offered hheld
  have houtcome : outcome = Program.answer.conclude
      (Environment.complete surroundings.environment surroundings.tree)
      (Setup.run surroundings.tree home (some keys)) := by
    unfold outcome Program.run
    rw [hparse]
    dsimp only
    rw [Program.answer_setUp, hterminal, Option.map_some]
  rw [houtcome, Program.ending_conclude, Program.failure_conclude, Program.tree_conclude]
  constructor
  . intro project hnames hkey
    obtain ⟨later, hafter⟩ := after_askAll_of_names held.offered hnames hkey Trace.empty
    constructor
    . intro htime
      rw [if_pos htime] at hafter
      obtain ⟨hnone, hleft⟩ := run_of_answers hheld hafter
      exact ⟨Conclusion.ending_eq_exited_zero_iff.2 hnone, hleft⟩
    . intro htime
      rw [if_neg (by simpa using htime)] at hafter
      rw [run_of_refused hheld hafter]
      exact ⟨rfl, rfl, rfl⟩
  . intro rest hchosen
    obtain ⟨hnone, hleft⟩ :=
      run_of_answers hheld (after_askAll_of_not_chosen held.offered hchosen Trace.empty)
    refine ⟨Conclusion.ending_eq_exited_zero_iff.2 hnone, hleft, ?_⟩
    rw [← offered_eq_self_iff]
    constructor
    . intro hkept
      exact hleft.eq hkept
    . intro hkept
      rwa [hkept] at hleft

def typing (text typed : String) : Surroundings where
  today := ⟨2021, 9, 17, by decide, by decide, by decide, by decide⟩
  environment := [("HOME", "/home")]
  tree := ⟨["home"], [(["home"], .directory), ([".local", "home"], .directory),
    (["share", ".local", "home"], .directory), (["lacodda", "share", ".local", "home"], .directory),
    (["worklog", "lacodda", "share", ".local", "home"], .directory),
    (["config.json", "worklog", "lacodda", "share", ".local", "home"], .file text.toUTF8)]⟩
  terminal := some typed
  tracker := ⟨fun _ _ => .unstartable "No such file or directory (os error 2)"⟩

theorem namesProject_of_typed : NamesProject (Key.decode " \r\rLP\r\r".toList) "LP".toList := by
  refine ⟨[], [.char 'L', .char 'P'], [], [], by decide, ⟨by simp, rfl⟩, ⟨?_, rfl⟩, ⟨by simp, rfl⟩⟩
  simp [Key.Edits]

theorem run_starts_from_held_with_key :
    let text := "\x7b\"jira\": [\"keep\", \"OPS\", \"9:30:0\"]\x7d"
    let held : Settings := ⟨some ⟨"keep", "OPS", "9:30:0"⟩⟩
    let naming := Program.run (typing text " \r\rLP\r\r") ["init"]
    let choosing := Program.run (typing text "\r") ["init"]
    Request.parse ["init"] = .ok (.setUp false) ∧
      held.IsHeld (typing text "").tree (some "/home") ∧
      naming.ending = .exited 0 ∧
      IsHeld ⟨some ⟨"keep", "LP", "9:30:0"⟩⟩ naming.tree (some "/home") ∧
      choosing.ending = .exited 0 ∧ held.IsHeld choosing.tree (some "/home") := by
  intro text held naming choosing
  have hparse : Request.parse ["init"] = .ok (.setUp false) := by decide +kernel
  have hheld : held.IsHeld (typing text "").tree (some "/home") :=
    ⟨text, by decide +kernel, by decide +kernel⟩
  obtain ⟨hnaming, _⟩ := run_starts_from_held (typing text " \r\rLP\r\r") hparse rfl hheld
  obtain ⟨hzero, hstored⟩ := (hnaming _ namesProject_of_typed (by decide)).1 (by decide +kernel)
  rw [offered_eq_self_iff.2 (by decide), String.ofList_toList] at hstored
  obtain ⟨_, hchoosing⟩ := run_starts_from_held (typing text "\r") hparse rfl hheld
  obtain ⟨hzero', _, hkept⟩ := hchoosing [] (by decide)
  exact ⟨hparse, hheld, hzero, hstored, hzero', hkept.2 (by decide)⟩

theorem run_forgets_held_without_key :
    let text := "\x7b\"jira\":\x7b\"binary\":\"keep\",\"project\":\"lp\"\x7d\x7d"
    let held : Settings := ⟨some ⟨"keep", "lp", "10:00:00"⟩⟩
    let naming := Program.run (typing text " \r\rLP\r\r") ["init"]
    let choosing := Program.run (typing text "\r") ["init"]
    held.IsHeld (typing text "").tree (some "/home") ∧
      NamesProject (Key.decode " \r\rLP\r\r".toList) "LP".toList ∧
      naming.ending = .exited 0 ∧
      ¬IsHeld ⟨some ⟨"keep", "LP", "10:00:00"⟩⟩ naming.tree (some "/home") ∧
      Choice.answer false (Key.decode "\r".toList) = .ok (false, []) ∧
      choosing.ending = .exited 0 ∧ ¬held.IsHeld choosing.tree (some "/home") := by
  intro text held naming choosing
  have hheld : held.IsHeld (typing text "").tree (some "/home") :=
    ⟨text, by decide +kernel, by decide +kernel⟩
  have hnaming : IsHeld ⟨some ⟨"jira", "LP", "10:00:00"⟩⟩ naming.tree (some "/home") :=
    ⟨_, (show naming.tree.readText _ = .ok (Settings.text ⟨some ⟨"jira", "LP", "10:00:00"⟩⟩) by
      decide +kernel), parse_text _⟩
  have hchoosing : Settings.default.IsHeld choosing.tree (some "/home") :=
    ⟨_, (show choosing.tree.readText _ = .ok Settings.default.text by decide +kernel), parse_text _⟩
  refine ⟨hheld, namesProject_of_typed, by decide +kernel, ?_, by decide, by decide +kernel, ?_⟩
  . intro hkept
    exact absurd (hkept.eq hnaming) (by decide)
  . intro hkept
    exact absurd (hkept.eq hchoosing) (by decide)

end Workday
