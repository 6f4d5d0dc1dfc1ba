import Workday.Text.Blank

/-!
This module contains what is left of a text when white space is cut off its ends: the one part of it
that has only white space around it and none at its own ends.
-/

namespace Workday.Text

/--
A text is trimmed if it neither starts nor ends with white space.
-/
structure IsTrimmed (cs : List Char) : Prop where
  not_isBlank_head : ∀ c, cs.head? = some c → isBlank c = false
  not_isBlank_last : ∀ c, cs.getLast? = some c → isBlank c = false

/--
A text is trimmed to a part of it if that part is trimmed and there is only white space around it.
-/
structure IsTrimmedTo (cs inner : List Char) : Prop where
  exists_ends : ∃ front back, cs = front ++ inner ++ back ∧ ∀ c ∈ front ++ back, isBlank c = true
  isTrimmed : IsTrimmed inner

variable {cs inner : List Char}

theorem trimEnd_eq_reverse (cs : List Char) : trimEnd cs = (trimStart cs.reverse).reverse := rfl

theorem exists_append_trimStart (cs : List Char) :
    ∃ front, cs = front ++ trimStart cs ∧ ∀ c ∈ front, isBlank c = true := by
  refine ⟨cs.takeWhile isBlank, ?_, ?_⟩
  . exact List.takeWhile_append_dropWhile.symm
  . intro c hc
    exact List.all_eq_true.1 List.all_takeWhile c hc

theorem exists_trimEnd_append (cs : List Char) :
    ∃ back, cs = trimEnd cs ++ back ∧ ∀ c ∈ back, isBlank c = true := by
  obtain ⟨back, hcs, hback⟩ := exists_append_trimStart cs.reverse
  refine ⟨back.reverse, ?_, ?_⟩
  . rw [trimEnd_eq_reverse, ← List.reverse_append, ← hcs, List.reverse_reverse]
  . intro c hc
    exact hback c (List.mem_reverse.1 hc)

theorem isBlank_of_head?_trimStart {c : Char} (h : (trimStart cs).head? = some c) :
    isBlank c = false := by
  have hnot := List.head?_dropWhile_not isBlank cs
  unfold trimStart at h
  rw [h] at hnot
  exact hnot

theorem trimStart_eq_self (h : ∀ c, cs.head? = some c → isBlank c = false) : trimStart cs = cs := by
  cases cs with
  | nil => rfl
  | cons c cs => exact List.dropWhile_cons_of_neg (by simp [h c rfl])

theorem trimEnd_eq_self (h : ∀ c, cs.getLast? = some c → isBlank c = false) : trimEnd cs = cs := by
  rw [trimEnd_eq_reverse, trimStart_eq_self, List.reverse_reverse]
  rwa [List.head?_reverse]

theorem trimStart_append (h : ∀ c ∈ inner, isBlank c = true) :
    trimStart (inner ++ cs) = trimStart cs :=
  List.dropWhile_append_of_pos h

theorem trimEnd_append (h : ∀ c ∈ inner, isBlank c = true) :
    trimEnd (cs ++ inner) = trimEnd cs := by
  rw [trimEnd_eq_reverse, List.reverse_append, trimStart_append, trimEnd_eq_reverse]
  intro c hc
  exact h c (List.mem_reverse.1 hc)

theorem isTrimmed_trim (cs : List Char) : IsTrimmed (trim cs) := by
  obtain ⟨back, hback, _⟩ := exists_trimEnd_append (trimStart cs)
  constructor
  . -- The end is cut off a text that starts with the same character.
    intro c hc
    have hhead : (trimStart cs).head? = some c := by
      rw [hback, List.head?_append, show (trimEnd (trimStart cs)).head? = some c from hc,
        Option.some_or]
    exact isBlank_of_head?_trimStart hhead
  . intro c hc
    unfold trim at hc
    rw [trimEnd_eq_reverse, List.getLast?_reverse] at hc
    exact isBlank_of_head?_trimStart hc

theorem isTrimmedTo_trim (cs : List Char) : IsTrimmedTo cs (trim cs) := by
  obtain ⟨front, hfront, hfrontBlank⟩ := exists_append_trimStart cs
  obtain ⟨back, hback, hbackBlank⟩ := exists_trimEnd_append (trimStart cs)
  refine ⟨⟨front, back, ?_, ?_⟩, isTrimmed_trim cs⟩
  . rw [trim, List.append_assoc, ← hback, ← hfront]
  . intro c hc
    rw [List.mem_append] at hc
    exact hc.elim (hfrontBlank c) (hbackBlank c)

theorem IsTrimmedTo.eq_trim (h : IsTrimmedTo cs inner) : inner = trim cs := by
  obtain ⟨⟨front, back, rfl, hblank⟩, hhead, hlast⟩ := h
  simp only [List.mem_append, or_imp, forall_and] at hblank
  obtain ⟨hfront, hback⟩ := hblank
  unfold trim
  rw [List.append_assoc, trimStart_append hfront]
  cases inner with
  | nil =>
    rw [List.nil_append, ← List.append_nil back, trimStart_append hback]
    rfl
  | cons c inner =>
    rw [trimStart_eq_self, trimEnd_append hback, trimEnd_eq_self hlast]
    exact hhead

theorem trim_eq_iff : trim cs = inner ↔ IsTrimmedTo cs inner := by
  constructor
  . rintro rfl
    apply isTrimmedTo_trim
  . intro h
    exact h.eq_trim.symm

theorem IsTrimmedTo.subset (h : IsTrimmedTo cs inner) : inner ⊆ cs := by
  obtain ⟨⟨front, back, rfl, _⟩, _⟩ := h
  intro c hc
  simp [hc]

end Workday.Text
