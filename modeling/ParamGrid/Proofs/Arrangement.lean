import Mathlib.Data.List.Forall2
import Mathlib.Data.List.Nodup

set_option autoImplicit false

namespace ParamGrid

variable {α β : Type}

def arrange (order : List Nat) (items : List α) : List α :=
  order.filterMap (items[·]?)

theorem arrange_cons {place : Nat} {items : List α} (bound : place < items.length)
    (order : List Nat) : arrange (place :: order) items = items[place] :: arrange order items := by
  simp [arrange, List.getElem?_eq_getElem bound]

theorem length_arrange {order : List Nat} {items : List α}
    (inside : ∀ place ∈ order, place < items.length) :
    (arrange order items).length = order.length := by
  induction order with
  | nil => rfl
  | cons place order ih =>
    obtain ⟨bound, inside⟩ := List.forall_mem_cons.1 inside
    rw [arrange_cons bound, List.length_cons, ih inside, List.length_cons]

theorem getElem?_arrange {order : List Nat} {items : List α}
    (inside : ∀ place ∈ order, place < items.length) (i : Nat) :
    (arrange order items)[i]? = order[i]?.bind (items[·]?) := by
  induction order generalizing i with
  | nil => rfl
  | cons place order ih =>
    obtain ⟨bound, inside⟩ := List.forall_mem_cons.1 inside
    rw [arrange_cons bound]
    cases i with
    | zero => simp [List.getElem?_eq_getElem bound]
    | succ i => simpa using ih inside i

theorem map_arrange (f : α → β) (order : List Nat) (items : List α) :
    (arrange order items).map f = arrange order (items.map f) := by
  simp [arrange, List.map_filterMap]

theorem zip_arrange (order : List Nat) {items : List α} {others : List β}
    (same : items.length = others.length) :
    (arrange order items).zip (arrange order others) = arrange order (items.zip others) := by
  refine (List.zip_of_prod ?_ ?_).symm
  · rw [map_arrange, List.map_fst_zip (Nat.le_of_eq same)]
  · rw [map_arrange, List.map_snd_zip (Nat.le_of_eq same.symm)]

section

variable {order : List Nat} {items others : List α}

theorem inside_of_perm {n : Nat} (permutes : order.Perm (List.range n)) :
    ∀ place ∈ order, place < n :=
  fun _ member => List.mem_range.1 (permutes.mem_iff.1 member)

theorem arrange_perm (permutes : order.Perm (List.range items.length)) :
    (arrange order items).Perm items := by
  have whole : arrange (List.range items.length) items = items := by
    apply List.ext_getElem?
    intro i
    rw [getElem?_arrange fun _ => List.mem_range.1]
    by_cases bound : i < items.length
    · simp [bound]
    · simp [bound]
  exact (permutes.filterMap _).trans (.of_eq whole)

theorem arrange_injective {n : Nat} (permutes : order.Perm (List.range n))
    (length : items.length = n) (lengthOther : others.length = n)
    (same : arrange order items = arrange order others) : items = others := by
  have inside := inside_of_perm permutes
  apply List.ext_getElem?
  intro place
  by_cases bound : place < n
  · obtain ⟨i, listed⟩ := List.mem_iff_getElem?.1 (permutes.mem_iff.2 (List.mem_range.2 bound))
    have at_i := congrArg (·[i]?) same
    simpa [getElem?_arrange (length ▸ inside), getElem?_arrange (lengthOther ▸ inside), listed]
      using at_i
  · rw [List.getElem?_eq_none (by omega), List.getElem?_eq_none (by omega)]

theorem arrange_eq_nil_iff (permutes : order.Perm (List.range items.length)) :
    arrange order items = [] ↔ items = [] := by
  rw [← List.length_eq_zero_iff, (arrange_perm permutes).length_eq, List.length_eq_zero_iff]

theorem forall₂_arrange {R : α → β → Prop} {others : List β}
    (permutes : order.Perm (List.range items.length)) (same : items.length = others.length) :
    List.Forall₂ R (arrange order items) (arrange order others) ↔ List.Forall₂ R items others := by
  have pairs : (arrange order (items.zip others)).Perm (items.zip others) :=
    arrange_perm (by simpa [same] using permutes)
  have lengths : (arrange order items).length = (arrange order others).length := by
    rw [(arrange_perm permutes).length_eq, (arrange_perm (same ▸ permutes)).length_eq, same]
  simp only [List.forall₂_iff_zip, zip_arrange order same, pairs.mem_iff, lengths, same, true_and]

theorem exists_arrange (permutes : order.Perm (List.range items.length)) :
    ∃ before, before.length = items.length ∧ arrange order before = items := by
  have distinct : order.Nodup := permutes.nodup_iff.2 List.nodup_range
  have width : order.length = items.length := by simpa using permutes.length_eq
  let inverse := (List.range items.length).map fun place => order.idxOf place
  have back : ∀ i ∈ inverse, i < items.length := by
    intro i member
    obtain ⟨place, listed, rfl⟩ := List.mem_map.1 member
    rw [← width]
    exact List.idxOf_lt_length_iff.2 (permutes.mem_iff.2 listed)
  have length : (arrange inverse items).length = items.length := by
    simp [length_arrange back, inverse]
  refine ⟨arrange inverse items, length, ?_⟩
  apply List.ext_getElem?
  intro i
  rw [getElem?_arrange (length ▸ inside_of_perm permutes)]
  by_cases bound : i < order.length
  · have place : order[i] < items.length := inside_of_perm permutes _ (List.getElem_mem bound)
    have returned : inverse[order[i]]? = some i := by
      simp [inverse, place, distinct.idxOf_getElem i bound]
    simp [List.getElem?_eq_getElem bound, getElem?_arrange back, returned]
  · rw [List.getElem?_eq_none (by omega), List.getElem?_eq_none (by omega)]
    rfl

end

end ParamGrid
