import Mathlib.Algebra.BigOperators.Fin
import Mathlib.Algebra.BigOperators.Group.List.Basic
import ParamGrid.Odometer

set_option autoImplicit false

namespace ParamGrid.Odometer

def Within (sizes digits : List Nat) : Prop :=
  List.Forall₂ (· < ·) digits sizes

theorem rank_eq_sum (sizes digits : List Nat) :
    rank sizes digits =
      ∑ i ∈ Finset.range sizes.length, digits.getD i 0 * (sizes.take i).prod := by
  induction sizes generalizing digits with
  | nil => cases digits <;> rfl
  | cons size sizes ih =>
    cases digits with
    | nil => simp [rank]
    | cons digit digits =>
      rw [rank, ih, List.length_cons, Finset.sum_range_succ', Finset.mul_sum]
      simp [Nat.add_comm, Nat.mul_left_comm]

theorem mem_readings {sizes digits : List Nat} : digits ∈ readings sizes ↔ Within sizes digits := by
  unfold Within
  induction sizes generalizing digits with
  | nil => simp [readings]
  | cons size sizes ih =>
    cases digits with
    | nil => simp [readings]
    | cons digit digits => simp [readings, ih, and_comm]

theorem flatMap_range (count size : Nat) :
    (List.range count).flatMap (fun block => (List.range size).map (· + size * block)) =
      List.range (size * count) := by
  induction count with
  | zero => rfl
  | succ count ih =>
    rw [List.range_succ, List.flatMap_append, ih, Nat.mul_succ, List.range_add]
    simp [Nat.add_comm]

theorem map_rank_readings (sizes : List Nat) :
    (readings sizes).map (rank sizes) = List.range sizes.prod := by
  induction sizes with
  | nil => rfl
  | cons size sizes ih =>
    rw [List.prod_cons, ← flatMap_range, ← ih, List.flatMap_map, readings, List.map_flatMap]
    simp [Function.comp_def, rank]

theorem length_readings (sizes : List Nat) : (readings sizes).length = sizes.prod := by
  have same := congrArg List.length (map_rank_readings sizes)
  simpa using same

theorem sorted_readings (sizes : List Nat) :
    (readings sizes).Pairwise fun a b => rank sizes a < rank sizes b := by
  rw [← List.pairwise_map, map_rank_readings]
  exact List.pairwise_lt_range

theorem nodup_readings (sizes : List Nat) : (readings sizes).Nodup := by
  refine (sorted_readings sizes).imp ?_
  rintro a _ lower rfl
  exact Nat.lt_irrefl _ lower

theorem getElem?_rank {sizes digits : List Nat} (within : Within sizes digits) :
    (readings sizes)[rank sizes digits]? = some digits := by
  obtain ⟨i, bound, found⟩ := List.getElem_of_mem (mem_readings.2 within)
  have placed : ((readings sizes).map (rank sizes))[i]? = some (rank sizes digits) := by
    simp [bound, found]
  have ranked : rank sizes digits = i := by
    rw [map_rank_readings, List.getElem?_range (by simpa [length_readings] using bound)] at placed
    exact (Option.some.inj placed).symm
  rw [ranked, List.getElem?_eq_getElem bound, found]

theorem drop_rank {sizes digits : List Nat} (within : Within sizes digits) :
    (readings sizes).drop (rank sizes digits) =
      digits :: (readings sizes).drop (rank sizes digits + 1) := by
  obtain ⟨bound, found⟩ := List.getElem?_eq_some_iff.1 (getElem?_rank within)
  rw [List.drop_eq_getElem_cons bound, found]

-- Digits above all others run slowest: each reading of them has all readings of the lower ones.
theorem readings_append (sizes upper : List Nat) :
    readings (sizes ++ upper) =
      (readings upper).flatMap fun high => (readings sizes).map (· ++ high) := by
  induction sizes with
  | nil => simp [readings]
  | cons size sizes ih =>
    rw [List.cons_append, readings, ih, List.flatMap_assoc, readings]
    simp [List.flatMap_map, List.map_flatMap, Function.comp_def]

theorem readings_singleton (size : Nat) : readings [size] = (List.range size).map ([·]) := by
  simp [readings]

theorem within_next? {sizes digits after : List Nat} (within : Within sizes digits)
    (found : next? sizes digits = some after) : Within sizes after := by
  induction sizes, digits using next?.induct generalizing after with
  | case1 size sizes digit digits bound =>
    simp only [next?, bound, if_true, Option.some.injEq] at found
    subst found
    exact .cons bound (List.forall₂_cons.1 within).2
  | case2 size sizes digit digits bound ih =>
    simp only [next?, bound, if_false, Option.map_eq_some_iff] at found
    obtain ⟨rest, found, rfl⟩ := found
    obtain ⟨below, within⟩ := List.forall₂_cons.1 within
    exact .cons (Nat.zero_lt_of_lt below) (ih within found)
  | case3 => simp [next?] at found

theorem rank_next? {sizes digits after : List Nat} (within : Within sizes digits)
    (found : next? sizes digits = some after) : rank sizes after = rank sizes digits + 1 := by
  induction sizes, digits using next?.induct generalizing after with
  | case1 size sizes digit digits bound =>
    simp only [next?, bound, if_true, Option.some.injEq] at found
    subst found
    simp only [rank]
    omega
  | case2 size sizes digit digits bound ih =>
    simp only [next?, bound, if_false, Option.map_eq_some_iff] at found
    obtain ⟨rest, found, rfl⟩ := found
    obtain ⟨below, within⟩ := List.forall₂_cons.1 within
    simp only [rank, ih within found, Nat.mul_succ]
    omega
  | case3 => simp [next?] at found

theorem rank_last {sizes digits : List Nat} (within : Within sizes digits)
    (last : next? sizes digits = none) : rank sizes digits + 1 = sizes.prod := by
  induction sizes, digits using next?.induct with
  | case1 size sizes digit digits bound => simp [next?, bound] at last
  | case2 size sizes digit digits bound ih =>
    simp only [next?, bound, if_false, Option.map_eq_none_iff] at last
    obtain ⟨below, within⟩ := List.forall₂_cons.1 within
    rw [List.prod_cons, ← ih within last, rank, Nat.mul_succ]
    omega
  | case3 sizes digits different =>
    cases within with
    | nil => rfl
    | cons => exact absurd rfl (different _ _ _ _ rfl)

theorem drop_next? {sizes digits : List Nat} (within : Within sizes digits) :
    (readings sizes).drop (rank sizes digits + 1) =
      match next? sizes digits with
      | some after => after :: (readings sizes).drop (rank sizes after + 1)
      | none => [] := by
  cases found : next? sizes digits with
  | none =>
    rw [rank_last within found, ← length_readings]
    exact List.drop_length
  | some after => rw [← rank_next? within found, drop_rank (within_next? within found)]

theorem within_zeros {sizes : List Nat} (positive : ∀ size ∈ sizes, 0 < size) :
    Within sizes (zeros sizes) := by
  induction sizes with
  | nil => exact .nil
  | cons size sizes ih =>
    exact .cons (positive size (by simp)) (ih fun s member => positive s (by simp [member]))

theorem rank_zeros (sizes : List Nat) : rank sizes (zeros sizes) = 0 := by
  induction sizes with
  | nil => rfl
  | cons size sizes ih =>
    rw [zeros, List.map_cons, rank, ← zeros, ih]
    rfl

end ParamGrid.Odometer
