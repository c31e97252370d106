import Mathlib.Data.List.Basic
import Mathlib.Data.List.Nodup
import Mathlib.Data.List.Perm.Basic
import Mathlib.Order.Basic
import ParamGrid.Table

set_option autoImplicit false

namespace ParamGrid

variable {α : Type}

theorem lookup_eq_some_iff_mem {entries : List (String × α)}
    (distinct : (entries.map Prod.fst).Nodup) {name : String} {value : α} :
    entries.lookup name = some value ↔ (name, value) ∈ entries := by
  rw [List.lookup_eq_some_iff]
  constructor
  · rintro ⟨before, after, split, -⟩
    simp [split]
  · intro member
    obtain ⟨before, after, split⟩ := List.append_of_mem member
    refine ⟨before, after, split, fun entry earlier => ?_⟩
    rw [split, List.map_append, List.map_cons, List.nodup_middle, List.nodup_cons] at distinct
    have elsewhere : entry.1 ∈ before.map Prod.fst := List.mem_map_of_mem earlier
    simp only [bne_iff_ne]
    rintro rfl
    exact distinct.1 (List.mem_append_left _ elsewhere)

theorem lookup_eq_none_iff_not_mem {entries : List (String × α)} {name : String} :
    entries.lookup name = none ↔ name ∉ entries.map Prod.fst := by
  rw [List.lookup_eq_none_iff]
  simp only [List.mem_map, not_exists, not_and, bne_iff_ne, ne_comm]

theorem lookup_cons_eq_ite (entry : String × α) (rest : List (String × α)) (name : String) :
    (entry :: rest).lookup name = if name = entry.1 then some entry.2 else rest.lookup name := by
  rw [List.lookup_cons]
  by_cases same : name = entry.1
  · simp [same]
  · rw [beq_false_of_ne same, if_neg same]

theorem lookup_congr {entries others : List (String × α)} (same : entries.Perm others)
    (distinct : (entries.map Prod.fst).Nodup) (name : String) :
    entries.lookup name = others.lookup name := by
  have distinctOthers := (same.map Prod.fst).nodup_iff.1 distinct
  apply Option.ext
  intro value
  rw [lookup_eq_some_iff_mem distinct, lookup_eq_some_iff_mem distinctOthers, same.mem_iff]

namespace Table

variable {t u : Table α} {name : String}

theorem sorted_names (t : Table α) : t.names.Pairwise (· < ·) :=
  List.pairwise_map.2 t.sorted

theorem nodup_names (t : Table α) : t.names.Nodup :=
  t.sorted_names.imp String.ne_of_lt

theorem get?_eq_some_iff {value : α} : t.get? name = some value ↔ (name, value) ∈ t.entries :=
  lookup_eq_some_iff_mem t.nodup_names

theorem get?_eq_none_iff : t.get? name = none ↔ name ∉ t.names :=
  lookup_eq_none_iff_not_mem

theorem mem_names : name ∈ t.names ↔ ∃ value, t.get? name = some value := by
  rw [← not_iff_not, ← get?_eq_none_iff, Option.eq_none_iff_forall_ne_some, not_exists]

-- Entries that stand in the strict order of their names are in one order only.
theorem ext_get? (same : ∀ name, t.get? name = u.get? name) : t = u := by
  have members : ∀ entry, entry ∈ t.entries ↔ entry ∈ u.entries := fun (name, value) => by
    rw [← get?_eq_some_iff, ← get?_eq_some_iff, same]
  have perm : t.entries.Perm u.entries :=
    (List.perm_ext_iff_of_nodup t.nodup_names.of_map u.nodup_names.of_map).2 members
  have entries : t.entries = u.entries :=
    perm.eq_of_pairwise (fun a b _ _ lower upper => absurd upper (String.lt_asymm lower))
      t.sorted u.sorted
  cases t
  cases u
  cases entries
  rfl

theorem lookup_putEntry (name : String) (value : α) (entries : List (String × α))
    (other : String) :
    (putEntry name value entries).lookup other =
      if other = name then some value else entries.lookup other := by
  induction entries with
  | nil => exact lookup_cons_eq_ite (name, value) [] other
  | cons entry rest ih =>
    rw [putEntry]
    split
    next before => exact lookup_cons_eq_ite (name, value) (entry :: rest) other
    next notBefore =>
      split
      next here =>
        simp only [lookup_cons_eq_ite, here]
        split <;> rfl
      next different =>
        rw [lookup_cons_eq_ite, lookup_cons_eq_ite, ih]
        by_cases same : other = entry.1
        · rw [if_pos same, if_pos same, if_neg (same ▸ Ne.symm different)]
        · rw [if_neg same, if_neg same]

theorem get?_put (t : Table α) (name : String) (value : α) (other : String) :
    (t.put name value).get? other = if other = name then some value else t.get? other :=
  lookup_putEntry name value t.entries other

theorem get?_putAll (t : Table α) (entries : List (String × α)) (name : String) :
    (t.putAll entries).get? name = (entries.reverse.lookup name).or (t.get? name) := by
  induction entries generalizing t with
  | nil => simp [putAll]
  | cons entry rest ih =>
    have first : t.putAll (entry :: rest) = (t.put entry.1 entry.2).putAll rest := rfl
    rw [first, ih, get?_put, List.reverse_cons, List.lookup_append, Option.or_assoc]
    congr 1
    rw [lookup_cons_eq_ite]
    split <;> simp

theorem get?_putAll_of_nodup (t : Table α) {entries : List (String × α)}
    (distinct : (entries.map Prod.fst).Nodup) (name : String) :
    (t.putAll entries).get? name = (entries.lookup name).or (t.get? name) := by
  rw [get?_putAll, lookup_congr entries.reverse_perm.symm distinct]

theorem get?_ofList {entries : List (String × α)} (distinct : (entries.map Prod.fst).Nodup)
    (name : String) : (ofList entries).get? name = entries.lookup name := by
  rw [ofList, get?_putAll_of_nodup _ distinct]
  exact Option.or_none

end Table

end ParamGrid
