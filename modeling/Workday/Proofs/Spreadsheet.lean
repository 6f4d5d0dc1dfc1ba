import Workday.Spreadsheet

/-!
This module contains how a spreadsheet reads the row of a day. The quote that ends the first cell is
the first one without another quote behind it, whatever the names of the tasks hold, so that both
cells are found again as they were.
-/

namespace Workday.Spreadsheet

/--
Read the rest of a text in quotes, up to the first quote without another one behind it. Two quotes
are a quote of the text. The result is the text and what follows its end.
-/
def readQuoted : List Char → Option (List Char × List Char)
  | [] => none
  | '"' :: '"' :: cs => (readQuoted cs).map fun (text, rest) => ('"' :: text, rest)
  | '"' :: cs => some ([], cs)
  | c :: cs => (readQuoted cs).map fun (text, rest) => (c :: text, rest)

/--
Read a row as its two cells: a text in quotes, and after a tab all the rest.
-/
def readRow? (text : String) : Option (String × String) :=
  match text.toList with
  | '"' :: cs =>
    match readQuoted cs with
    | some (first, '\t' :: second) => some (String.ofList first, String.ofList second)
    | _ => none
  | _ => none

theorem readQuoted_quote {rest : List Char} (h : rest.head? ≠ some '"') :
    readQuoted ('"' :: rest) = some ([], rest) := by
  rw [readQuoted]
  intro cs heq
  rw [heq] at h
  contradiction

-- No quote of the text can be taken for its end, since each of them has another one behind it.
theorem readQuoted_doubleQuotes (cs rest : List Char) (h : rest.head? ≠ some '"') :
    readQuoted (doubleQuotes cs ++ '"' :: rest) = some (cs, rest) := by
  induction cs with
  | nil => exact readQuoted_quote h
  | cons c cs ih =>
    unfold doubleQuotes
    split
    . next hquote =>
      rw [List.cons_append, List.cons_append, readQuoted, ih, hquote]
      rfl
    . next hplain =>
      rw [List.cons_append, readQuoted, ih]
      . rfl
      . intro _ hquote
        contradiction
      . exact hplain

variable (names : Names) (tasks : List Task)

theorem toList_row : (row names tasks).toList =
    '"' :: (doubleQuotes (cell names tasks).toList ++
      '"' :: '\t' :: (hoursText (totalMinutes tasks).toNat).toList) := by
  simp [row]

theorem readRow?_row : readRow? (row names tasks) =
    some (cell names tasks, hoursText (totalMinutes tasks).toNat) := by
  have hcells := readQuoted_doubleQuotes (cell names tasks).toList
    ('\t' :: (hoursText (totalMinutes tasks).toNat).toList) (by simp)
  unfold readRow?
  rw [toList_row]
  simp only [hcells, String.ofList_toList]

/--
A row is read as the cell of its tasks and the text of their hours, with nothing of it left over. So
rows are equal exactly if both of these are.
-/
theorem row_reads_back :
    (∀ names tasks, readRow? (row names tasks) =
      some (cell names tasks, hoursText (totalMinutes tasks).toNat)) ∧
    ∀ names tasks otherNames otherTasks, row names tasks = row otherNames otherTasks ↔
      cell names tasks = cell otherNames otherTasks ∧
        hoursText (totalMinutes tasks).toNat = hoursText (totalMinutes otherTasks).toNat := by
  refine ⟨readRow?_row, ?_⟩
  intro names tasks otherNames otherTasks
  constructor
  . intro h
    have hread := readRow?_row names tasks
    rw [h, readRow?_row, Option.some.injEq, Prod.mk.injEq] at hread
    exact ⟨hread.1.symm, hread.2.symm⟩
  . intro ⟨hcell, hhours⟩
    unfold row
    rw [hcell, hhours]

example : readRow? (row [("17", "\"\"\t8\"")] [⟨"17", some 450⟩]) =
    some ("[17] \"\"\t8\"", "7.5") := by
  decide +kernel

end Workday.Spreadsheet
