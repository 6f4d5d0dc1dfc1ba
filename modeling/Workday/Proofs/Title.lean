import Mathlib.Data.List.TakeWhile
import Workday.Proofs.Blank
import Workday.Proofs.Errand

/-!
This module contains what the title in a printed issue is, line by line. It stands in the first line
that has something behind a mark `# `, and is all that stands behind the first such mark there, less
the white space around it. What is printed after that line does not matter, and if the exit status
is not zero nothing that is printed does.
-/

namespace Workday

namespace Title

open Text

/--
Something stands behind a mark `# ` of a line, and `before` in front of that mark.
-/
def IsMarked (line before rest : List Char) : Prop :=
  line = before ++ '#' :: ' ' :: rest ∧ rest ≠ []

/--
The heading of a line stands behind the first mark that has something behind it.
-/
def IsHeading (line rest : List Char) : Prop :=
  ∃ before, IsMarked line before rest ∧
    ∀ other others, IsMarked line other others → before.length ≤ other.length

/--
The first heading of a text is that of its first line that has one.
-/
def IsFirstHeading (text rest : List Char) : Prop :=
  ∃ earlier line later, text.splitOn '\n' = earlier ++ line :: later ∧
    (∀ other ∈ earlier, ∀ before others, ¬IsMarked other before others) ∧ IsHeading line rest

variable {c : Char} {cs line rest : List Char}

/--
A text starts with a mark that has something behind it on the same line.
-/
def StartsMarked (cs : List Char) : Prop :=
  ∃ d ds, cs = '#' :: ' ' :: d :: ds ∧ d ≠ '\n'

theorem findChars?_of_startsMarked {d : Char} {ds : List Char} (h : d ≠ '\n') :
    findChars? ('#' :: ' ' :: d :: ds) = some ((d :: ds).takeWhile (· ≠ '\n')) := by
  rw [findChars?, if_neg h]

theorem findChars?_of_not_startsMarked (h : ¬StartsMarked (c :: cs)) :
    findChars? (c :: cs) = findChars? cs := by
  by_cases hmark : ∃ d ds, c :: cs = '#' :: ' ' :: d :: ds
  . obtain ⟨d, ds, heq⟩ := hmark
    cases heq
    have hd : d = '\n' := Decidable.not_not.1 fun hd => h ⟨d, ds, rfl, hd⟩
    rw [findChars?, if_pos hd]
  . rw [findChars?]
    intro d ds hc hcs
    exact hmark ⟨d, ds, by rw [hc, hcs]⟩

section Line

theorem isMarked_cons_iff {before : List Char} (hline : '\n' ∉ c :: line)
    (h : ¬StartsMarked (c :: line)) :
    IsMarked (c :: line) before rest ↔ ∃ front, before = c :: front ∧ IsMarked line front rest := by
  unfold IsMarked
  cases before with
  | nil =>
    constructor
    . rintro ⟨hcons, hne⟩
      obtain ⟨d, ds, rfl⟩ := List.exists_cons_of_ne_nil hne
      refine absurd ⟨d, ds, hcons, ?_⟩ h
      rintro rfl
      rw [hcons] at hline
      simp at hline
    . rintro ⟨_, hnil, _⟩
      contradiction
  | cons d before =>
    simp only [List.cons_append, List.cons.injEq]
    constructor
    . rintro ⟨⟨rfl, hcons⟩, hne⟩
      exact ⟨before, ⟨rfl, rfl⟩, hcons, hne⟩
    . rintro ⟨_, ⟨rfl, rfl⟩, hcons, hne⟩
      exact ⟨⟨rfl, hcons⟩, hne⟩

theorem isHeading_of_startsMarked {d : Char} {ds : List Char} :
    IsHeading ('#' :: ' ' :: d :: ds) (d :: ds) := by
  refine ⟨[], ⟨rfl, List.cons_ne_nil d ds⟩, ?_⟩
  intro other others _
  apply Nat.zero_le

theorem forall_ne_newline (h : '\n' ∉ line) : ∀ x ∈ line, decide (x ≠ '\n') = true := by
  intro x hx
  rw [decide_eq_true_iff]
  rintro rfl
  exact h hx

theorem isHeading_of_findChars? (hline : '\n' ∉ line) (h : findChars? line = some rest) :
    IsHeading line rest := by
  induction line with
  | nil => contradiction
  | cons c line ih =>
    by_cases hstart : StartsMarked (c :: line)
    . obtain ⟨d, ds, heq, hd⟩ := hstart
      rw [heq] at h hline ⊢
      have hds : '\n' ∉ d :: ds := List.not_mem_of_not_mem_cons (List.not_mem_of_not_mem_cons hline)
      rw [findChars?_of_startsMarked hd, List.takeWhile_eq_self_iff.2 (forall_ne_newline hds),
        Option.some.injEq] at h
      rw [← h]
      apply isHeading_of_startsMarked
    . rw [findChars?_of_not_startsMarked hstart] at h
      obtain ⟨before, hmarked, hleast⟩ := ih (List.not_mem_of_not_mem_cons hline) h
      refine ⟨c :: before, (isMarked_cons_iff hline hstart).2 ⟨before, rfl, hmarked⟩, ?_⟩
      intro other others hother
      obtain ⟨front, rfl, hfront⟩ := (isMarked_cons_iff hline hstart).1 hother
      exact Nat.succ_le_succ (hleast front others hfront)

theorem not_isMarked_of_findChars? (hline : '\n' ∉ line) (h : findChars? line = none)
    (before : List Char) : ¬IsMarked line before rest := by
  induction line generalizing before with
  | nil =>
    rintro ⟨heq, _⟩
    simp at heq
  | cons c line ih =>
    by_cases hstart : StartsMarked (c :: line)
    . obtain ⟨d, ds, heq, hd⟩ := hstart
      rw [heq, findChars?_of_startsMarked hd] at h
      contradiction
    . rw [findChars?_of_not_startsMarked hstart] at h
      rw [isMarked_cons_iff hline hstart]
      rintro ⟨front, _, hmarked⟩
      exact ih (List.not_mem_of_not_mem_cons hline) h front hmarked

theorem IsHeading.unique {first second : List Char} (hfirst : IsHeading line first)
    (hsecond : IsHeading line second) : first = second := by
  obtain ⟨front, hmarked, hleast⟩ := hfirst
  obtain ⟨other, hother, hotherLeast⟩ := hsecond
  have hlength : front.length = other.length :=
    Nat.le_antisymm (hleast _ _ hother) (hotherLeast _ _ hmarked)
  obtain ⟨_, hrest⟩ := List.append_inj (hmarked.1.symm.trans hother.1) hlength
  simpa using hrest

theorem findChars?_eq_none_iff_of_line (hline : '\n' ∉ line) :
    findChars? line = none ↔ ∀ before others, ¬IsMarked line before others := by
  constructor
  . intro h before others
    exact not_isMarked_of_findChars? hline h before
  . intro h
    cases hfound : findChars? line with
    | none => rfl
    | some rest =>
      obtain ⟨before, hmarked, _⟩ := isHeading_of_findChars? hline hfound
      exact absurd hmarked (h before rest)

theorem findChars?_eq_some_iff_of_line (hline : '\n' ∉ line) :
    findChars? line = some rest ↔ IsHeading line rest := by
  constructor
  . exact isHeading_of_findChars? hline
  . intro h
    cases hfound : findChars? line with
    | none =>
      obtain ⟨before, hmarked, _⟩ := h
      exact absurd hmarked (not_isMarked_of_findChars? hline hfound before)
    | some found => rw [(isHeading_of_findChars? hline hfound).unique h]

end Line

section Lines

-- What the end of the line adds behind a mark does not count.
theorem not_startsMarked_append_newline (hline : '\n' ∉ c :: line) (h : ¬StartsMarked (c :: line))
    (cs : List Char) : ¬StartsMarked (c :: (line ++ '\n' :: cs)) := by
  rintro ⟨d, ds, heq, hd⟩
  rw [List.cons.injEq] at heq
  match line with
  | [] => simp at heq
  | [_] =>
    simp only [List.cons_append, List.nil_append, List.cons.injEq] at heq
    exact hd heq.2.2.1.symm
  | _ :: _ :: line =>
    simp only [List.cons_append, List.cons.injEq] at heq
    obtain ⟨rfl, rfl, rfl, _⟩ := heq
    exact h ⟨_, line, rfl, hd⟩

theorem findChars?_append_newline (hline : '\n' ∉ line) (cs : List Char) :
    findChars? (line ++ '\n' :: cs) = (findChars? line).or (findChars? cs) := by
  induction line with
  | nil => rfl
  | cons c line ih =>
    by_cases hstart : StartsMarked (c :: line)
    . obtain ⟨d, ds, heq, hd⟩ := hstart
      rw [heq] at hline ⊢
      have hds := forall_ne_newline
        (List.not_mem_of_not_mem_cons (List.not_mem_of_not_mem_cons hline))
      simp only [List.cons_append]
      rw [findChars?_of_startsMarked hd, findChars?_of_startsMarked hd, Option.some_or,
        List.takeWhile_eq_self_iff.2 hds, ← List.cons_append, List.takeWhile_append_of_pos hds]
      simp
    . rw [List.cons_append, findChars?_of_not_startsMarked hstart,
        findChars?_of_not_startsMarked (not_startsMarked_append_newline hline hstart cs)]
      exact ih (List.not_mem_of_not_mem_cons hline)

theorem lines_induction {p : List Char → Prop} (last : ∀ line, '\n' ∉ line → p line)
    (cons : ∀ line rest, '\n' ∉ line → p rest → p (line ++ '\n' :: rest)) (cs : List Char) :
    p cs := by
  induction hlength : cs.length using Nat.strongRecOn generalizing cs with
  | ind n ih =>
    by_cases hnewline : '\n' ∈ cs
    . obtain ⟨line, rest, hcs, hline⟩ := List.eq_append_cons_of_mem hnewline
      rw [hcs]
      apply cons line rest hline
      apply ih rest.length _ rest rfl
      rw [← hlength, hcs, List.length_append, List.length_cons]
      omega
    . exact last cs hnewline

theorem newline_notMem_of_mem_splitOn (h : line ∈ cs.splitOn '\n') : '\n' ∉ line := by
  induction cs using lines_induction with
  | last cs hcs =>
    rw [List.splitOn_eq_singleton hcs, List.mem_singleton] at h
    rw [h]
    exact hcs
  | cons first cs hfirst ih =>
    rw [List.splitOn_append_cons_self_of_not_mem hfirst, List.mem_cons] at h
    obtain rfl | h := h
    . exact hfirst
    . exact ih h

theorem findChars?_eq_findSome? (cs : List Char) :
    findChars? cs = (cs.splitOn '\n').findSome? findChars? := by
  induction cs using lines_induction with
  | last cs hcs => rw [List.splitOn_eq_singleton hcs, List.findSome?_singleton]
  | cons line cs hline ih =>
    rw [List.splitOn_append_cons_self_of_not_mem hline, findChars?_append_newline hline, ih,
      List.findSome?_cons]
    cases findChars? line <;> rfl

theorem findChars?_eq_some_iff : findChars? cs = some rest ↔ IsFirstHeading cs rest := by
  have hline : ∀ line ∈ cs.splitOn '\n', '\n' ∉ line := fun _ => newline_notMem_of_mem_splitOn
  rw [findChars?_eq_findSome?, List.findSome?_eq_some_iff]
  constructor
  . rintro ⟨earlier, line, later, hlines, hfound, hearlier⟩
    rw [hlines, List.forall_mem_append, List.forall_mem_cons] at hline
    refine ⟨earlier, line, later, hlines, ?_, (findChars?_eq_some_iff_of_line hline.2.1).1 hfound⟩
    intro other hother
    exact (findChars?_eq_none_iff_of_line (hline.1 other hother)).1 (hearlier other hother)
  . rintro ⟨earlier, line, later, hlines, hearlier, hheading⟩
    rw [hlines, List.forall_mem_append, List.forall_mem_cons] at hline
    refine ⟨earlier, line, later, hlines, (findChars?_eq_some_iff_of_line hline.2.1).2 hheading, ?_⟩
    intro other hother
    exact (findChars?_eq_none_iff_of_line (hline.1 other hother)).2 (hearlier other hother)

theorem isSome_findChars?_of_isMarked {before : List Char} (hline : '\n' ∉ line)
    (h : IsMarked line before rest) : (findChars? line).isSome = true := by
  rw [Option.isSome_iff_ne_none, Ne, findChars?_eq_none_iff_of_line hline]
  intro hnone
  exact hnone before rest h

-- The search ends with the first line that has a heading.
theorem findChars?_of_lines {earlier later : List (List Char)} {before : List Char}
    (hlines : cs.splitOn '\n' = earlier ++ line :: later) (h : IsMarked line before rest) :
    findChars? cs = (earlier.findSome? findChars?).or (findChars? line) := by
  have hline : '\n' ∉ line := by
    apply newline_notMem_of_mem_splitOn
    rw [hlines]
    exact List.mem_append_right _ List.mem_cons_self
  rw [findChars?_eq_findSome?, hlines, List.findSome?_append,
    List.findSome?_cons_of_isSome (isSome_findChars?_of_isMarked hline h)]

end Lines

variable {text title : String}

theorem find?_eq_some_iff :
    find? text = some title ↔
      title ≠ "" ∧ ∃ rest, IsFirstHeading text.toList rest ∧ IsTrimmedTo rest title.toList := by
  unfold find?
  simp only [← findChars?_eq_some_iff, ← trim_eq_iff]
  split
  . next rest hfound =>
    simp only [hfound, Option.some.injEq, exists_eq_left', List.isEmpty_iff]
    constructor
    . intro h
      split at h
      . contradiction
      . next hne =>
        cases h
        rw [String.toList_ofList]
        refine ⟨?_, rfl⟩
        intro hnil
        exact hne (String.ofList_eq_empty_iff.1 hnil)
    . rintro ⟨hne, htrim⟩
      rw [htrim, if_neg, String.ofList_toList]
      intro hnil
      exact hne (String.toList_eq_nil_iff.1 hnil)
  . next hfound => simp [hfound]

theorem find?_eq_none_iff :
    find? text = none ↔
      (∀ rest, ¬IsFirstHeading text.toList rest) ∨
        ∃ rest, IsFirstHeading text.toList rest ∧ IsTrimmedTo rest [] := by
  unfold find?
  simp only [← findChars?_eq_some_iff, ← trim_eq_iff]
  split
  . next rest hfound => simp [hfound]
  . next hfound => simp [hfound]

theorem find?_congr {other : String} (h : findChars? text.toList = findChars? other.toList) :
    find? text = find? other := by
  unfold find?
  rw [h]

-- A heading stands on one line, and trimming it adds nothing.
theorem newline_notMem_of_find? (h : find? text = some title) : '\n' ∉ title.toList := by
  obtain ⟨_, rest, ⟨earlier, line, later, hlines, _, before, ⟨hline, _⟩, _⟩, htrimmed⟩ :=
    find?_eq_some_iff.1 h
  intro hmem
  have hnewline : '\n' ∈ line := by
    rw [hline]
    simp [htrimmed.subset hmem]
  have hlineMem : line ∈ text.toList.splitOn '\n' := by
    rw [hlines]
    exact List.mem_append_right _ List.mem_cons_self
  exact newline_notMem_of_mem_splitOn hlineMem hnewline

theorem isTrimmed_of_find? (h : find? text = some title) : IsTrimmed title.toList := by
  obtain ⟨_, _, _, htrimmed⟩ := find?_eq_some_iff.1 h
  exact htrimmed.isTrimmed

end Title

namespace Client

open Run Title Text

variable (settings : JiraSettings) (tracker : Tracker) (id : String)

section Outcome

variable {settings tracker id} {trace : Trace} {stdout stderr title : String}

theorem titleIn_eq_ok_iff : titleIn id stdout = .ok title ↔ Title.find? stdout = some title := by
  unfold titleIn
  cases Title.find? stdout <;> simp

theorem titleIn_eq_error_iff :
    titleIn id stdout = .error (.nameNotFound id) ↔ Title.find? stdout = none := by
  unfold titleIn
  cases Title.find? stdout <;> simp

theorem taskName_of_unstartable {reason : String}
    (h : tracker.respond trace.commands (viewCommand settings id) = .unstartable reason) :
    ((taskName settings tracker id).after trace).1 =
      .error (.unstartable settings.binary reason) := by
  rw [after_taskName, h]
  rfl

theorem taskName_of_status_ne_zero {status : Int}
    (h : tracker.respond trace.commands (viewCommand settings id) = .exited status stdout stderr)
    (hstatus : status ≠ 0) :
    ((taskName settings tracker id).after trace).1 =
      .error (.commandFailed status (String.ofList (trim stderr.toList))) := by
  rw [after_taskName, h]
  simp only [printed, if_neg hstatus]
  rfl

theorem taskName_of_status_zero
    (h : tracker.respond trace.commands (viewCommand settings id) = .exited 0 stdout stderr) :
    ((taskName settings tracker id).after trace).1 = titleIn id stdout := by
  rw [after_taskName, h]
  rfl

theorem exists_printed_of_taskName
    (h : ((taskName settings tracker id).after trace).1 = .ok title) :
    ∃ stdout stderr,
      tracker.respond trace.commands (viewCommand settings id) = .exited 0 stdout stderr ∧
      Title.find? stdout = some title := by
  cases hresponse : tracker.respond trace.commands (viewCommand settings id) with
  | unstartable reason =>
    rw [taskName_of_unstartable hresponse] at h
    contradiction
  | exited status stdout stderr =>
    by_cases hstatus : status = 0
    . rw [hstatus] at hresponse
      rw [taskName_of_status_zero hresponse, titleIn_eq_ok_iff] at h
      exact ⟨stdout, stderr, by rw [hstatus], h⟩
    . rw [taskName_of_status_ne_zero hresponse hstatus] at h
      contradiction

end Outcome

/--
Looking up a title fails with the reason why the client could not be started, or with the status
and the words of a client that ends with another status than zero. Otherwise the title is the first
heading in what was printed, trimmed, if there is one that is not blank. A title is not empty, on
one line and trimmed, and nothing printed after its line affects it.
-/
theorem taskName_outcomes (trace : Trace) :
    let command := viewCommand settings id
    let outcome := ((taskName settings tracker id).after trace).1
    (∀ reason, tracker.respond trace.commands command = .unstartable reason →
      outcome = .error (.unstartable settings.binary reason)) ∧
    (∀ status stdout stderr,
      tracker.respond trace.commands command = .exited status stdout stderr → status ≠ 0 →
      ∃ words, IsTrimmedTo stderr.toList words.toList ∧
        outcome = .error (.commandFailed status words)) ∧
    (∀ stdout stderr, tracker.respond trace.commands command = .exited 0 stdout stderr →
      (∀ title, outcome = .ok title ↔
        title ≠ "" ∧ ∃ rest, IsFirstHeading stdout.toList rest ∧ IsTrimmedTo rest title.toList) ∧
      (outcome = .error (.nameNotFound id) ↔
        (∀ rest, ¬IsFirstHeading stdout.toList rest) ∨
          ∃ rest, IsFirstHeading stdout.toList rest ∧ IsTrimmedTo rest [])) ∧
    (∀ title, outcome = .ok title →
      title ≠ "" ∧ '\n' ∉ title.toList ∧ IsTrimmed title.toList) ∧
    ∀ other otherTrace stdout stderr otherStdout otherStderr earlier line later otherLater,
      tracker.respond trace.commands command = .exited 0 stdout stderr →
      other.respond otherTrace.commands command = .exited 0 otherStdout otherStderr →
      stdout.toList.splitOn '\n' = earlier ++ line :: later →
      otherStdout.toList.splitOn '\n' = earlier ++ line :: otherLater →
      (∃ before rest, IsMarked line before rest) →
      ((taskName settings other id).after otherTrace).1 = outcome := by
  intro command outcome
  refine ⟨?_, ?_, ?_, ?_, ?_⟩
  . intro reason hresponse
    exact taskName_of_unstartable hresponse
  . intro status stdout stderr hresponse hstatus
    refine ⟨_, ?_, taskName_of_status_ne_zero hresponse hstatus⟩
    rw [String.toList_ofList]
    apply isTrimmedTo_trim
  . intro stdout stderr hresponse
    rw [show outcome = titleIn id stdout from taskName_of_status_zero hresponse]
    refine ⟨fun title => ?_, ?_⟩
    . rw [titleIn_eq_ok_iff, find?_eq_some_iff]
    . rw [titleIn_eq_error_iff, find?_eq_none_iff]
  . intro title htitle
    obtain ⟨stdout, stderr, _, hfound⟩ := exists_printed_of_taskName htitle
    exact ⟨(find?_eq_some_iff.1 hfound).1, newline_notMem_of_find? hfound,
      isTrimmed_of_find? hfound⟩
  . rintro other otherTrace stdout stderr otherStdout otherStderr earlier line later otherLater
      hresponse hother hlines hotherLines ⟨before, rest, hmarked⟩
    rw [show outcome = titleIn id stdout from taskName_of_status_zero hresponse,
      taskName_of_status_zero hother]
    unfold titleIn
    rw [find?_congr]
    rw [findChars?_of_lines hlines hmarked, findChars?_of_lines hotherLines hmarked]

theorem taskName_of_second_mark :
    let tracker : Tracker :=
      ⟨fun _ _ => .exited 0 "issue #1\n# \n ## Fix # it \r\n# Later" "slow"⟩
    ((taskName ⟨"jira", "LP", "10:00:00"⟩ tracker "LP-1").after Trace.empty).1 = .ok "Fix # it" := by
  intro tracker
  obtain ⟨_, _, hprinted, _⟩ :=
    taskName_outcomes ⟨"jira", "LP", "10:00:00"⟩ tracker "LP-1" Trace.empty
  obtain ⟨htitle, _⟩ := hprinted _ _ rfl
  refine (htitle "Fix # it").2 ⟨by decide, "Fix # it \r".toList, ?_, ?_⟩
  . rw [← findChars?_eq_some_iff]
    decide +kernel
  . rw [← trim_eq_iff]
    decide +kernel

end Client

end Workday
