import Mathlib.Data.List.Sort

/-!
This module contains what belongs to the places of a list, and its listing in the order of the
places. Such a listing grows at its end when the list does.
-/

namespace Workday

variable {α : Type}

/--
The latest place before `k` at which something holds.
-/
def IsLatest (P : Nat → Prop) (i k : Nat) : Prop :=
  i < k ∧ P i ∧ ∀ j, i < j → j < k → ¬P j

theorem IsLatest.congr {P Q : Nat → Prop} {i k : Nat} (h : IsLatest P i k)
    (hiff : ∀ j < k, P j ↔ Q j) : IsLatest Q i k := by
  refine ⟨h.1, (hiff i h.1).1 h.2.1, ?_⟩
  intro j hij hjk hj
  exact h.2.2 j hij hjk ((hiff j hjk).2 hj)

theorem IsLatest.unique {P : Nat → Prop} {i j k : Nat} (hi : IsLatest P i k)
    (hj : IsLatest P j k) : i = j := by
  apply Nat.le_antisymm
  . exact Nat.le_of_not_lt fun hlt => hj.2.2 i hlt hi.1 hi.2.1
  . exact Nat.le_of_not_lt fun hlt => hi.2.2 j hlt hj.1 hj.2.1

theorem exists_isLatest {P : Nat → Prop} {i k : Nat} (hi : i < k) (h : P i) :
    ∃ latest, IsLatest P latest k := by
  induction k with
  | zero => contradiction
  | succ k ih =>
    by_cases hk : P k
    . refine ⟨k, Nat.lt_succ_self k, hk, ?_⟩
      intro j hkj hj
      omega
    . have hne : i ≠ k := fun heq => hk (heq ▸ h)
      obtain ⟨latest, hlt, hlatest, hnone⟩ := ih (by omega)
      refine ⟨latest, Nat.lt_succ_of_lt hlt, hlatest, ?_⟩
      intro j hlj hj
      by_cases heq : j = k
      . rw [heq]
        exact hk
      . exact hnone j hlj (by omega)

/--
The given values are all that belong to a place, in the order of the places.
-/
def InOrder (At : Nat → α → Prop) (values : List α) : Prop :=
  ∃ entries : List (Nat × α), entries.Pairwise (fun a b => a.1 < b.1) ∧
    (∀ k value, (k, value) ∈ entries ↔ At k value) ∧ entries.map Prod.snd = values

section InOrder

variable {At At' : Nat → α → Prop} {values values' : List α}

theorem InOrder.unique (h : InOrder At values) (h' : InOrder At values') : values = values' := by
  obtain ⟨entries, hsorted, hmem, rfl⟩ := h
  obtain ⟨entries', hsorted', hmem', rfl⟩ := h'
  have hirrefl : Std.Irrefl fun a b : Nat × α => a.1 < b.1 := ⟨fun a => Nat.lt_irrefl a.1⟩
  have hantisymm : Std.Antisymm fun a b : Nat × α => a.1 < b.1 :=
    ⟨fun a b hab hba => absurd hab (Nat.lt_asymm hba)⟩
  have heq : entries = entries' := by
    apply hsorted.eq_of_mem_iff hsorted'
    intro entry
    rw [hmem, hmem']
  rw [heq]

theorem InOrder.congr (h : InOrder At values) (hiff : ∀ k value, At' k value ↔ At k value) :
    InOrder At' values := by
  obtain ⟨entries, hsorted, hmem, hvalues⟩ := h
  refine ⟨entries, hsorted, ?_, hvalues⟩
  intro k value
  rw [hmem, hiff]

theorem inOrder_nil_iff : InOrder At [] ↔ ∀ k value, ¬At k value := by
  constructor
  . intro ⟨entries, _, hmem, hvalues⟩ k value hat
    rw [List.map_eq_nil_iff] at hvalues
    rw [← hmem, hvalues] at hat
    contradiction
  . intro h
    refine ⟨[], List.Pairwise.nil, ?_, rfl⟩
    intro k value
    simp [h]

variable {value : α}

theorem InOrder.concat (last : Nat) (h : InOrder (fun k other => At k other ∧ k < last) values)
    (hlast : ∀ k other, last ≤ k → (At k other ↔ k = last ∧ other = value)) :
    InOrder At (values ++ [value]) := by
  obtain ⟨entries, hsorted, hmem, rfl⟩ := h
  refine ⟨entries ++ [(last, value)], ?_, ?_, List.map_append⟩
  . rw [List.pairwise_append]
    refine ⟨hsorted, List.pairwise_singleton _ _, ?_⟩
    intro entry hentry other hother
    rw [List.mem_singleton.1 hother]
    exact ((hmem _ _).1 hentry).2
  . intro k other
    rw [List.mem_append, hmem, List.mem_singleton, Prod.mk.injEq]
    by_cases hk : k < last
    . simp [hk, Nat.ne_of_lt hk]
    . simp [hk, hlast k other (Nat.le_of_not_lt hk)]

theorem exists_last_of_inOrder (h : InOrder At (values ++ [value])) :
    ∃ last, (∀ k other, last ≤ k → (At k other ↔ k = last ∧ other = value)) ∧
      InOrder (fun k other => At k other ∧ k < last) values := by
  obtain ⟨entries, hsorted, hmem, hvalues⟩ := h
  rw [List.map_eq_append_iff] at hvalues
  obtain ⟨earlier, lastEntry, rfl, hearlier, hlast⟩ := hvalues
  obtain ⟨⟨last, _⟩, rfl, rfl⟩ := List.map_eq_singleton_iff.1 hlast
  obtain ⟨hsorted, _, hlt⟩ := List.pairwise_append.1 hsorted
  have hbound : ∀ k other, (k, other) ∈ earlier → k < last := by
    intro k other hentry
    exact hlt _ hentry _ (List.mem_singleton.2 rfl)
  simp only [List.mem_append, List.mem_singleton, Prod.mk.injEq] at hmem
  refine ⟨last, ?_, earlier, hsorted, ?_, hearlier⟩
  . intro k other hle
    rw [← hmem, or_iff_right]
    intro hentry
    exact Nat.not_lt.2 hle (hbound k other hentry)
  . intro k other
    dsimp only
    rw [← hmem]
    constructor
    . intro hentry
      exact ⟨.inl hentry, hbound k other hentry⟩
    . intro ⟨hentry, hk⟩
      exact hentry.resolve_right fun heq => Nat.ne_of_lt hk heq.1

theorem InOrder.keep {n : Nat} (h : InOrder At values)
    (hiff : ∀ k value, At' k value ↔ At k value ∨ k = n ∧ At' n value)
    (hnone : ∀ value, ¬At' n value) : InOrder At' values := by
  apply h.congr
  intro k value
  rw [hiff]
  exact or_iff_left fun hn => hnone value hn.2

theorem InOrder.extend {n : Nat} (h : InOrder At values)
    (hlt : ∀ k value, At k value → k < n)
    (hiff : ∀ k value, At' k value ↔ At k value ∨ k = n ∧ At' n value)
    (hlast : ∀ other, At' n other ↔ other = value) : InOrder At' (values ++ [value]) := by
  apply InOrder.concat n
  . apply h.congr
    intro k other
    rw [hiff]
    constructor
    . intro ⟨hat, hk⟩
      exact hat.resolve_right fun hn => Nat.ne_of_lt hk hn.1
    . intro hat
      exact ⟨.inl hat, hlt k other hat⟩
  . intro k other hk
    rw [hiff, hlast]
    exact or_iff_right fun hat => Nat.not_lt.2 hk (hlt k other hat)

/--
What is about the places up to `k` only can be told of a longer list, and of its last place apart.
-/
theorem concat_iff_of_congr {P : List α → Nat → Prop}
    (hcongr : ∀ xs ys k, (∀ j ≤ k, xs[j]? = ys[j]?) → P xs k → P ys k)
    (hlt : ∀ xs k, P xs k → k < xs.length) (xs : List α) (x : α) (k : Nat) :
    P (xs ++ [x]) k ↔ P xs k ∨ k = xs.length ∧ P (xs ++ [x]) xs.length := by
  have hsame : k < xs.length → ∀ j ≤ k, (xs ++ [x])[j]? = xs[j]? := by
    intro hk j hj
    exact List.getElem?_append_left (Nat.lt_of_le_of_lt hj hk)
  constructor
  . intro h
    have hbound := hlt _ _ h
    rw [List.length_append, List.length_singleton] at hbound
    by_cases hk : k < xs.length
    . exact .inl (hcongr _ _ k (hsame hk) h)
    . have heq : k = xs.length := by omega
      exact .inr ⟨heq, heq ▸ h⟩
  . intro h
    cases h with
    | inl h => exact hcongr _ _ k (fun j hj => (hsame (hlt _ _ h) j hj).symm) h
    | inr h => exact h.1 ▸ h.2

theorem getElem?_concat_eq_some_iff {xs : List α} {x y : α} {k : Nat} :
    (xs ++ [x])[k]? = some y ↔ xs[k]? = some y ∨ k = xs.length ∧ x = y := by
  rw [concat_iff_of_congr (P := fun xs k => xs[k]? = some y), List.getElem?_concat_length,
    Option.some.injEq]
  . intro xs ys k hsame h
    rw [← hsame k (Nat.le_refl k), h]
  . intro xs k h
    exact (List.getElem?_eq_some_iff.1 h).1

end InOrder

end Workday
