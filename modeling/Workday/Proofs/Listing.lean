import Workday.Proofs.Logging.Arguments
import Workday.Proofs.Logging.Preview
import Workday.Proofs.Title

/-!
This module contains how the tasks of a day are listed once their titles are found. Each task takes a
line of its own in the cell for the spreadsheet, from which its key and its name can be read again,
and has the same key and name in the overview. A key without a name is not shown in a run.
-/

namespace Workday

namespace Client

open Run

variable {settings : JiraSettings} {tracker : Tracker} {before after : List Command}
variable {id title : String}

/--
The tracker gave a title to an issue: one of the commands executed in between viewed the issue, and
what it printed had that title.
-/
def Gave (settings : JiraSettings) (tracker : Tracker) (before after : List Command)
    (id title : String) : Prop :=
  ∃ earlier stdout stderr,
    before <:+ earlier ∧ viewCommand settings id :: earlier <:+ after ∧
    tracker.respond earlier (viewCommand settings id) = .exited 0 stdout stderr ∧
    Title.find? stdout = some title

theorem Gave.mono {start last : List Command} (h : Gave settings tracker before after id title)
    (hstart : start <:+ before) (hlast : after <:+ last) :
    Gave settings tracker start last id title := by
  obtain ⟨earlier, stdout, stderr, hbefore, hafter, hprinted⟩ := h
  exact ⟨earlier, stdout, stderr, hstart.trans hbefore, hafter.trans hlast, hprinted⟩

theorem Gave.ne_empty (h : Gave settings tracker before after id title) : title ≠ "" := by
  obtain ⟨_, _, _, _, _, _, hfound⟩ := h
  exact (Title.find?_eq_some_iff.1 hfound).1

theorem Gave.newline_notMem (h : Gave settings tracker before after id title) :
    '\n' ∉ title.toList := by
  obtain ⟨_, _, _, _, _, _, hfound⟩ := h
  exact Title.newline_notMem_of_find? hfound

theorem gave_of_taskName {trace later : Trace}
    (h : (taskName settings tracker id).after trace = (.ok title, later)) :
    later.commands = viewCommand settings id :: trace.commands ∧
      Gave settings tracker trace.commands later.commands id title := by
  have hcommands : later.commands = viewCommand settings id :: trace.commands := by
    rw [after_taskName, Prod.mk.injEq] at h
    rw [← h.2]
    rfl
  obtain ⟨stdout, stderr, hresponse, hfound⟩ := exists_printed_of_taskName (by rw [h])
  exact ⟨hcommands, trace.commands, stdout, stderr, List.suffix_refl _, ⟨[], hcommands.symm⟩,
    hresponse, hfound⟩

end Client

namespace Worklog

open Run Client

variable {settings : JiraSettings} {tracker : Tracker} {known names : Names} {tasks : List Task}
variable {trace later : Trace}

-- A title that is looked up is found, and is known to the rest of the pass.
theorem gave_of_lookupNames_cons {task : Task} (hunknown : ¬(known.lookup task.id).isSome = true)
    (h : (lookupNames settings tracker known (task :: tasks)).after trace = (.ok names, later)) :
    ∃ name looked,
      trace.commands <:+ looked.commands ∧
      Gave settings tracker trace.commands looked.commands task.id name ∧
      (lookupNames settings tracker ((task.id, name) :: known) tasks).after looked =
        (.ok names, later) := by
  rw [lookupNames_cons, if_neg hunknown, after_bind_of_ok (after_say ..)] at h
  obtain ⟨name, looked, hname, h⟩ := ok_of_after_bind h
  rw [after_mapError, Prod.mk.injEq, mapError_eq_ok_iff] at hname
  obtain ⟨hcommands, hgave⟩ := gave_of_taskName (Prod.ext hname.1 hname.2)
  refine ⟨name, looked, ?_, hgave, h⟩
  rw [hcommands]
  apply List.suffix_cons

theorem gave_of_lookupNames
    (h : (lookupNames settings tracker known tasks).after trace = (.ok names, later)) :
    trace.commands <:+ later.commands ∧ known ⊆ names ∧
    (∀ task ∈ tasks, task.id ∈ names.map Prod.fst) ∧
    ∀ id name, (id, name) ∈ names → (id, name) ∈ known ∨
      Gave settings tracker trace.commands later.commands id name := by
  induction tasks generalizing known trace with
  | nil =>
    rw [lookupNames_nil, after_pure] at h
    cases h
    refine ⟨List.suffix_refl _, List.Subset.refl _, ?_, fun _ _ hmem => .inl hmem⟩
    intro task htask
    contradiction
  | cons task tasks ih =>
    rw [List.forall_mem_cons]
    by_cases hknown : (known.lookup task.id).isSome = true
    . rw [lookupNames_cons, if_pos hknown] at h
      obtain ⟨hsuffix, hkept, htasks, hgave⟩ := ih h
      rw [isSome_lookup_eq, List.contains_iff_mem] at hknown
      exact ⟨hsuffix, hkept, ⟨List.map_subset _ hkept hknown, htasks⟩, hgave⟩
    . obtain ⟨name, looked, hbefore, hfound, hrest⟩ := gave_of_lookupNames_cons hknown h
      obtain ⟨hsuffix, hkept, htasks, hgave⟩ := ih hrest
      rw [List.cons_subset] at hkept
      refine ⟨hbefore.trans hsuffix, hkept.2, ⟨List.mem_map.2 ⟨_, hkept.1, rfl⟩, htasks⟩, ?_⟩
      intro id title hmem
      obtain hmem | hlater := hgave id title hmem
      . rw [List.mem_cons] at hmem
        obtain heq | hmem := hmem
        . cases heq
          exact .inr (hfound.mono (List.suffix_refl _) hsuffix)
        . exact .inl hmem
      . exact .inr (hlater.mono hbefore (List.suffix_refl _))

theorem lookup_of_lookupNames
    (h : (lookupNames settings tracker [] tasks).after trace = (.ok names, later)) {task : Task}
    (htask : task ∈ tasks) :
    ∃ name, names.lookup task.id = some name ∧
      Gave settings tracker trace.commands later.commands task.id name := by
  obtain ⟨_, _, htasks, hgave⟩ := gave_of_lookupNames h
  obtain ⟨name, hname, hmem⟩ := exists_lookup_of_mem_keys (htasks task htask)
  exact ⟨name, hname, (hgave _ _ hmem).resolve_left List.not_mem_nil⟩

end Worklog

namespace Spreadsheet

variable {names : Names} {tasks : List Task} {task : Task} {name : String}

/--
Read a line of the cell: a key in brackets, which ends with the first closing one, and a name.
-/
def readLine? (line : List Char) : Option (String × String) :=
  match line.takeWhile (· ≠ ']'), line.dropWhile (· ≠ ']') with
  | '[' :: id, ']' :: ' ' :: name => some (String.ofList id, String.ofList name)
  | _, _ => none

def namedLine (id name : String) : List Char :=
  '[' :: id.toList ++ ']' :: ' ' :: name.toList

theorem toList_line (h : names.lookup task.id = some name) :
    (line names task).toList = namedLine task.id name := by
  unfold line namedLine
  rw [h]
  simp

theorem readLine?_namedLine {id : String} (h : ']' ∉ id.toList) :
    readLine? (namedLine id name) = some (id, name) := by
  have hopen : ∀ c ∈ '[' :: id.toList, decide (c ≠ ']') = true := by
    intro c hc
    rw [decide_eq_true_iff]
    rintro rfl
    rw [List.mem_cons] at hc
    exact h (hc.resolve_left (by decide))
  unfold readLine? namedLine
  rw [List.takeWhile_append_of_pos hopen, List.dropWhile_append_of_pos hopen]
  simp

theorem newline_notMem_namedLine {id : String} (hid : '\n' ∉ id.toList)
    (hname : '\n' ∉ name.toList) : '\n' ∉ namedLine id name := by
  unfold namedLine
  simp [hid, hname]

theorem splitOn_cell (hne : tasks ≠ []) (h : ∀ task ∈ tasks, '\n' ∉ (line names task).toList) :
    (cell names tasks).toList.splitOn '\n' = tasks.map fun task => (line names task).toList := by
  unfold cell
  rw [String.toList_intercalate, List.map_map]
  apply List.splitOn_intercalate
  . rw [List.forall_mem_map]
    exact h
  . rw [Ne, List.map_eq_nil_iff]
    exact hne

end Spreadsheet

namespace Logging

open Spreadsheet

/--
Tasks are listed by name if each has a line of its own in the cell for the spreadsheet, with its key
and its name, both of which can be read from it, and a row with both in the overview.
-/
structure IsListing (nameOf : String → String) (names : Names) (tasks : List Task) : Prop where
  lookup_eq : ∀ task ∈ tasks, names.lookup task.id = some (nameOf task.id)
  lines_eq : (cell names tasks).toList.splitOn '\n' =
    tasks.map fun task => namedLine task.id (nameOf task.id)
  lines_read : ((cell names tasks).toList.splitOn '\n').map readLine? =
    tasks.map fun task => some (task.id, nameOf task.id)
  rows_eq : (Overview.entries names tasks).map (fun row => (row.id, row.name)) =
    tasks.map fun task => (task.id, nameOf task.id)

theorem isListing_of_lookup {nameOf : String → String} {names : Names} {tasks : List Task}
    (hne : tasks ≠ []) (hfull : ∀ task ∈ tasks, TaskId.IsFull task.id)
    (hlookup : ∀ task ∈ tasks, names.lookup task.id = some (nameOf task.id))
    (hnewline : ∀ task ∈ tasks, '\n' ∉ (nameOf task.id).toList) : IsListing nameOf names tasks := by
  have hlines : (cell names tasks).toList.splitOn '\n' =
      tasks.map fun task => namedLine task.id (nameOf task.id) := by
    rw [splitOn_cell hne]
    . apply List.map_congr_left
      intro task htask
      exact toList_line (hlookup task htask)
    . intro task htask
      rw [toList_line (hlookup task htask)]
      apply newline_notMem_namedLine
      . exact (hfull task htask).notMem (by decide) (by decide) (by decide)
      . exact hnewline task htask
  refine ⟨hlookup, hlines, ?_, ?_⟩
  . rw [hlines, List.map_map]
    apply List.map_congr_left
    intro task htask
    apply readLine?_namedLine
    exact (hfull task htask).notMem (by decide) (by decide) (by decide)
  . unfold Overview.entries
    rw [List.map_map]
    apply List.map_congr_left
    intro task htask
    simp [Overview.entry, hlookup task htask]

theorem isFull_of_mem_tasks {project : String} {sloppy : Bool} {tokens : List String}
    {sheet : Timesheet} (hproject : TaskId.isProjectKey project.toList = true)
    (h : Timesheet.prepare project sloppy tokens = .ok sheet) {task : Task}
    (htask : task ∈ sheet.tasks) : TaskId.IsFull task.id := by
  obtain ⟨_, _, hnames⟩ := exists_token_of_mem_tasks h htask
  exact TaskId.isFull_of_namesIn hproject hnames

theorem exists_isListing {settings : JiraSettings} {tracker : Tracker} {project : String}
    {sloppy : Bool} {tokens : List String} {sheet : Timesheet} {names : Names} {trace later : Trace}
    (hproject : TaskId.isProjectKey project.toList = true) (hne : tokens ≠ [])
    (hsheet : Timesheet.prepare project sloppy tokens = .ok sheet)
    (hnames : (Worklog.lookupNames settings tracker [] sheet.tasks).after trace =
      (.ok names, later)) :
    ∃ nameOf, IsListing nameOf names sheet.tasks ∧
      ∀ task ∈ sheet.tasks, nameOf task.id ≠ "" ∧
        Client.Gave settings tracker trace.commands later.commands task.id (nameOf task.id) := by
  have hgiven : ∀ task ∈ sheet.tasks,
      names.lookup task.id = some ((names.lookup task.id).getD "") ∧
      Client.Gave settings tracker trace.commands later.commands task.id
        ((names.lookup task.id).getD "") := by
    intro task htask
    obtain ⟨name, hname, hgave⟩ := Worklog.lookup_of_lookupNames hnames htask
    rw [hname]
    exact ⟨rfl, hgave⟩
  refine ⟨fun id => (names.lookup id).getD "", ?_, ?_⟩
  . apply isListing_of_lookup
    . exact Timesheet.tasks_ne_nil_of_prepare hsheet hne
    . intro task htask
      exact isFull_of_mem_tasks hproject hsheet htask
    . intro task htask
      exact (hgiven task htask).1
    . intro task htask
      exact (hgiven task htask).2.newline_notMem
  . intro task htask
    exact ⟨(hgiven task htask).2.ne_empty, (hgiven task htask).2⟩

/--
If a timesheet in a project with a proper key is prepared from tokens and every title is found, then
all tasks are listed by name, whatever the tracker printed. The name of a task is not empty, and is
the title that the tracker gave to its issue. A run shows no timesheet that is not listed like this.
-/
theorem tasks_listed_by_name :
    (∀ (settings : JiraSettings) (tracker : Tracker) (project : String) (sloppy : Bool)
      (tokens : List String) (sheet : Timesheet) (names : Names) (trace later : Trace),
      TaskId.isProjectKey project.toList = true → tokens ≠ [] →
      Timesheet.prepare project sloppy tokens = .ok sheet →
      (Worklog.lookupNames settings tracker [] sheet.tasks).after trace = (.ok names, later) →
      ∃ nameOf, IsListing nameOf names sheet.tasks ∧
        ∀ task ∈ sheet.tasks, nameOf task.id ≠ "" ∧
          Client.Gave settings tracker trace.commands later.commands task.id (nameOf task.id)) ∧
    ∀ (surroundings : Surroundings) (environment : Environment) (request : LogRequest)
      (shown : Shown) (later : Trace),
      (previewOf surroundings environment request).after Trace.empty = (.ok shown, later) →
      ∃ nameOf events, IsListing nameOf shown.names shown.sheet.tasks ∧
        (∀ task ∈ shown.sheet.tasks, nameOf task.id ≠ "") ∧
        later.events = presented shown.names (request.date.getD surroundings.today)
          shown.sheet.tasks ++ events := by
  constructor
  . intro settings tracker project sloppy tokens sheet names trace later hproject hne hsheet hnames
    exact exists_isListing hproject hne hsheet hnames
  . intro surroundings environment request shown later h
    obtain ⟨hne, ⟨settings, hstored, hsettings⟩, hsheet, earlier, looked, hnames, hevents⟩ :=
      ok_of_preview _ _ h
    have hproject := Settings.isProjectKey_of_check (Settings.check_of_load hstored)
    rw [← hsettings] at hproject
    obtain ⟨nameOf, hlisting, hnamed⟩ := exists_isListing hproject hne hsheet hnames
    exact ⟨nameOf, looked.events, hlisting, fun task htask => (hnamed task htask).1, hevents⟩

theorem tasks_listed_by_name_with_brackets :
    let settings : JiraSettings := ⟨"jira", "LP", "10:00:00"⟩
    let tracker : Tracker := ⟨fun earlier _ =>
      .exited 0 (if earlier.isEmpty then "view\n# [OPS-1] ]  x \r\n# y" else "# 2") ""⟩
    let sheet : Timesheet :=
      ⟨[⟨"LP-622", some 210⟩, ⟨"OPS-5", some 135⟩, ⟨"LP-622", some 135⟩], none⟩
    let names : Names := [("OPS-5", "2"), ("LP-622", "[OPS-1] ]  x")]
    TaskId.isProjectKey "LP".toList = true ∧
      Timesheet.prepare "LP" false ["622", "3h30m", "OPS-5", "622"] = .ok sheet ∧
      ((Worklog.lookupNames settings tracker [] sheet.tasks).after Trace.empty).1 = .ok names ∧
      ∃ nameOf, IsListing nameOf names sheet.tasks ∧ nameOf "LP-622" = "[OPS-1] ]  x" := by
  intro settings tracker sheet names
  have hproject : TaskId.isProjectKey "LP".toList = true := by decide
  have hsheet : Timesheet.prepare "LP" false ["622", "3h30m", "OPS-5", "622"] = .ok sheet := by
    decide +kernel
  have hnames :
      ((Worklog.lookupNames settings tracker [] sheet.tasks).after Trace.empty).1 = .ok names := by
    decide +kernel
  obtain ⟨nameOf, hlisting, _⟩ := tasks_listed_by_name.1 settings tracker "LP" false _ sheet names
    Trace.empty _ hproject (by decide) hsheet (Prod.ext hnames rfl)
  refine ⟨hproject, hsheet, hnames, nameOf, hlisting, ?_⟩
  have hlookup := hlisting.lookup_eq ⟨"LP-622", some 210⟩ List.mem_cons_self
  exact (Option.some.inj hlookup).symm

end Logging

end Workday
