import Workday.Proofs.Calendar.TimeOfDay
import Workday.Proofs.Duration
import Workday.Proofs.Logging.Plan
import Workday.Proofs.Project
import Workday.Proofs.Settings

/-!
This module contains the arguments of the commands that a run executes. There are two forms of them.
What a token or a setting contributes is the key of a task or a time, in a notation that no program
takes for an option of its own.
-/

namespace Workday

open Text

/--
Whether an argument may be taken for an option.
-/
def looksLikeOption (argument : String) : Bool :=
  argument.toList.head? == some '-'

theorem looksLikeOption_of_all {p : Char → Bool} {first rest : List Char} {argument : String}
    (hargument : argument.toList = first ++ rest) (hne : first ≠ []) (hall : ∀ c ∈ first, p c = true)
    (hhyphen : p '-' = false) : looksLikeOption argument = false := by
  unfold looksLikeOption
  rw [hargument, List.head?_append, List.head?_eq_some_head hne, Option.some_or]
  rw [beq_eq_false_iff_ne, Ne, Option.some.injEq]
  intro hhead
  have htrue := hall _ (List.head_mem hne)
  rw [hhead, hhyphen] at htrue
  contradiction

theorem TaskId.looksLikeOption_of_isFull {id : String} (h : IsFull id) :
    looksLikeOption id = false := by
  obtain ⟨key, number, hid, hkey, _⟩ := h
  apply looksLikeOption_of_all hid _ (isUpper_of_isProjectKey hkey) (by decide)
  intro hnil
  rw [hnil] at hkey
  contradiction

theorem Duration.looksLikeOption_of_isCanonical {text : String} (h : IsCanonical text.toList) :
    looksLikeOption text = false := by
  obtain ⟨number, rest, htext, hnumber⟩ := h.exists_isNumber
  unfold isNumber at hnumber
  rw [Bool.and_eq_true, Bool.not_eq_true', List.isEmpty_eq_false_iff, List.all_eq_true] at hnumber
  exact looksLikeOption_of_all htext hnumber.1 hnumber.2 (by decide)

theorem Settings.isProjectKey_of_check {settings : Settings} (h : settings.check = .ok ()) :
    TaskId.isProjectKey settings.effective.project.toList = true := by
  unfold effective
  unfold check at h
  split at h
  . next jira hjira =>
    rw [hjira]
    unfold JiraSettings.checkProject at h
    split at h
    . assumption
    . contradiction
  . next hnone =>
    rw [hnone]
    decide

namespace Logging

open Run Errand

variable {stored : Except Unusable Settings} {today date : Date} {settings : JiraSettings}
variable {tasks : List Task} {request : LogRequest} {errand : Errand}

theorem exists_task_of_mem_views (h : errand ∈ views settings tasks) :
    ∃ task ∈ tasks, errand = view settings task.id := by
  unfold views at h
  rw [List.mem_map] at h
  obtain ⟨id, hid, rfl⟩ := h
  rw [List.mem_eraseDups, List.mem_map] at hid
  obtain ⟨task, htask, rfl⟩ := hid
  exact ⟨task, htask, rfl⟩

theorem exists_task_of_mem_plannedEntries (h : errand ∈ plannedEntries settings date tasks) :
    ∃ task ∈ tasks, 0 < task.spent ∧ ∃ time, settings.startTime = .ok time ∧
      errand = add settings task.id (task.minutes.getD 0) ⟨date, time⟩ := by
  unfold plannedEntries at h
  split at h
  . next time htime =>
    obtain ⟨task, htask, hspent, rfl⟩ := Worklog.exists_task_of_mem_entries h
    exact ⟨task, htask, hspent, time, htime, rfl⟩
  . contradiction

theorem exists_task_of_mem_planned (h : errand ∈ planned stored today request) :
    ∃ settings sheet, stored = .ok settings ∧
      Timesheet.prepare settings.effective.project request.sloppy request.tokens = .ok sheet ∧
      ∃ task ∈ sheet.tasks, errand = view settings.effective task.id ∨
        0 < task.spent ∧ ∃ time, settings.effective.startTime = .ok time ∧
          errand = add settings.effective task.id (task.minutes.getD 0)
            ⟨request.date.getD today, time⟩ := by
  unfold planned at h
  split at h
  . contradiction
  . next settings =>
    split at h
    . contradiction
    . next sheet hsheet =>
      refine ⟨settings, sheet, rfl, hsheet, ?_⟩
      rw [List.mem_append] at h
      cases h with
      | inl hview =>
        obtain ⟨task, htask, herrand⟩ := exists_task_of_mem_views hview
        exact ⟨task, htask, .inl herrand⟩
      | inr hentry =>
        split at hentry
        . obtain ⟨task, htask, hadd⟩ := exists_task_of_mem_plannedEntries hentry
          exact ⟨task, htask, .inr hadd⟩
        . contradiction

theorem exists_planned_of_mem_commands {surroundings : Surroundings} {environment : Environment}
    {command : Command}
    (h : command ∈ (Program.answer surroundings environment (.log request)).commands) :
    ∃ errand ∈ planned (Settings.read surroundings.tree (environment.lookup "HOME"))
      surroundings.today request, errand.command = command := by
  rw [commands_answer, runOf, List.mem_reverse] at h
  by_cases hne : request.tokens = []
  . unfold run at h
    rw [hne] at h
    contradiction
  . let stored := Settings.read surroundings.tree (environment.lookup "HOME")
    have hdoes : Does surroundings.tracker
        (run stored surroundings.tracker surroundings.today request) Trace.empty
        (planned stored surroundings.today request) (isReady stored request) := does_run hne
    rw [hdoes.commands_eq] at h
    simp only [executed, Trace.empty, List.append_nil, List.mem_reverse, List.mem_map] at h
    obtain ⟨errand, hattempted, hcommand⟩ := h
    exact ⟨errand, (attempted_isPrefix _).subset hattempted, hcommand⟩

theorem exists_token_of_mem_tasks {project : String} {sloppy : Bool} {tokens : List String}
    {sheet : Timesheet} (h : Timesheet.prepare project sloppy tokens = .ok sheet) {task : Task}
    (htask : task ∈ sheet.tasks) : ∃ token ∈ tokens, TaskId.NamesIn project token task.id := by
  have hid : task.id ∈ sheet.tasks.map Task.id := List.mem_map_of_mem htask
  rw [Timesheet.map_id_prepare h, List.mem_filterMap] at hid
  obtain ⟨token, htoken, hparse⟩ := hid
  exact ⟨token, htoken, TaskId.parse?_eq_some_iff.1 hparse⟩

/--
Every command of a run that logs a day has the program that is set, and views an issue or logs work
on it. The issue is one that a token names, its key is a full one, and the work takes a duration that
is not zero, from the time that is set on the day that is asked for.
-/
theorem run_commands_forms (surroundings : Surroundings) (arguments : List String)
    (request : LogRequest) (hrequest : Request.parse arguments = .ok (.log request))
    (command : Command) (hcommand : command ∈ (Program.run surroundings arguments).commands) :
    let environment := Environment.complete surroundings.environment surroundings.tree
    ∃ settings token id,
      Settings.read surroundings.tree (environment.lookup "HOME") = .ok settings ∧
      command.program = settings.effective.binary ∧
      token ∈ request.tokens ∧ TaskId.NamesIn settings.effective.project token id ∧
      TaskId.IsFull id ∧ looksLikeOption id = false ∧
      (command.arguments = ["issue", "view", id] ∨
        ∃ duration time,
          command.arguments = ["issue", "worklog", "add", id, duration, "--started",
            (request.date.getD surroundings.today).numeric ++ " " ++ time, "--no-input"] ∧
          Duration.IsCanonical duration.toList ∧ looksLikeOption duration = false ∧
          TimeOfDay.IsNotation time.toList ∧
          settings.effective.startTime.map TimeOfDay.text = .ok time) := by
  intro environment
  unfold Program.run at hcommand
  rw [hrequest] at hcommand
  obtain ⟨errand, hplanned, rfl⟩ := exists_planned_of_mem_commands hcommand
  obtain ⟨settings, sheet, hstored, hsheet, task, htask, hform⟩ :=
    exists_task_of_mem_planned hplanned
  obtain ⟨token, htoken, hnames⟩ := exists_token_of_mem_tasks hsheet htask
  have hproject := Settings.isProjectKey_of_check (Settings.check_of_load hstored)
  have hfull := TaskId.isFull_of_namesIn hproject hnames
  refine ⟨settings, token, task.id, hstored, ?_, htoken, hnames, hfull,
    TaskId.looksLikeOption_of_isFull hfull, ?_⟩
  . obtain rfl | ⟨_, _, _, rfl⟩ := hform
    . rfl
    . rfl
  . obtain rfl | ⟨hspent, time, htime, rfl⟩ := hform
    . exact .inl rfl
    . have hcanonical := Duration.isCanonical_render hspent
      refine .inr ⟨Duration.render (task.minutes.getD 0), time.text, rfl, hcanonical,
        Duration.looksLikeOption_of_isCanonical hcanonical, time.isNotation_text, ?_⟩
      rw [htime]
      rfl

def otherProjectDay : Surroundings :=
  { sampleDay 9 with
    tree := ⟨["home"],
      [(["home"], .directory), ([".local", "home"], .directory),
        (["share", ".local", "home"], .directory),
        (["lacodda", "share", ".local", "home"], .directory),
        (["worklog", "lacodda", "share", ".local", "home"], .directory),
        (["config.json", "worklog", "lacodda", "share", ".local", "home"], .file
          "\x7b\"jira\": [\"client\", \"OPS\", \"9:00:00\"]\x7d".toUTF8)]⟩ }

theorem run_commands_of_other_project :
    let request : LogRequest := ⟨["622", "3h30m", "LP-1"], true, false,
      some ⟨2025, 5, 6, by decide, by decide, by decide, by decide⟩⟩
    let arguments := ["--write", "622", "3h30m", "LP-1", "--date=2025-05-06"]
    let command : Command := ⟨"client", ["issue", "worklog", "add", "OPS-622", "3h30m", "--started",
      "2025-05-06 09:00:00", "--no-input"]⟩
    Request.parse arguments = .ok (.log request) ∧
      command ∈ (Program.run otherProjectDay arguments).commands ∧
      TaskId.IsFull "OPS-622" ∧ Duration.IsCanonical "3h30m".toList := by
  intro request arguments command
  have hrequest : Request.parse arguments = .ok (.log request) := by decide +kernel
  have hthird : (Program.run otherProjectDay arguments).commands[2]? = some command := by
    decide +kernel
  have hcommand := List.mem_of_getElem? hthird
  refine ⟨hrequest, hcommand, ?_⟩
  obtain ⟨_, _, id, _, _, _, _, hfull, _, hview | ⟨duration, _, hadd, hcanonical, _⟩⟩ :=
    run_commands_forms otherProjectDay arguments request hrequest command hcommand
  . simp [command] at hview
  . obtain ⟨rfl, rfl, _⟩ : "OPS-622" = id ∧ "3h30m" = duration ∧ _ := by
      simpa [command] using hadd
    exact ⟨hfull, hcanonical⟩

end Logging

end Workday
