import Mathlib.Data.List.Forall2
import ParamGrid.Engine.Basic
import ParamGrid.Engine.Advance
import ParamGrid.Proofs.Filter.Evaluation
import ParamGrid.Proofs.Odometer

set_option autoImplicit false

namespace ParamGrid.Engine

variable {σ : Type}

def slotAdmits (names : List String) (cursor : List Nat) (d : Dimension) (index : Nat) : Bool :=
  match d.filter? index with
  | none => true
  | some source =>
    if source = "" then true
    else
      match Filter.compile names (slotName d index) source with
      | .ok (some f) => f.holds cursor
      | .ok none | .error _ => false

def admits (dimensions : List Dimension) (cursor : List Nat) : Bool :=
  (dimensions.zip cursor).all fun (d, index) =>
    slotAdmits (dimensions.map Dimension.name) cursor d index

def Selects (dimensions : List Dimension) (cursor : List Nat) (c : Combination) : Prop :=
  c.entries.map some =
    List.zipWith (fun d index => (d.values[index]?).map (d.name, ·)) dimensions cursor

theorem mapM_eq_ok {α β ε : Type} {f : α → Except ε β} {xs : List α} {ys : List β} :
    xs.mapM f = .ok ys ↔ List.Forall₂ (fun x y => f x = .ok y) xs ys := by
  induction xs generalizing ys with
  | nil =>
    rw [List.forall₂_nil_left_iff]
    constructor
    · intro done
      cases done
      rfl
    · rintro rfl
      rfl
  | cons x xs ih =>
    rw [List.mapM_cons, List.forall₂_cons_left_iff]
    cases first : f x with
    | error e =>
      constructor
      · intro done
        cases done
      · rintro ⟨y, _, same, -⟩
        cases same
    | ok y =>
      cases later : xs.mapM f with
      | error e =>
        constructor
        · intro done
          cases done
        · rintro ⟨_, rest, -, all, -⟩
          rw [ih.2 all] at later
          cases later
      | ok rest =>
        constructor
        · intro done
          cases done
          exact ⟨y, rest, rfl, ih.1 later, rfl⟩
        · rintro ⟨_, rest', same, all, rfl⟩
          cases same
          rw [ih.2 all] at later
          cases later
          rfl

theorem mapM_mem {α β ε : Type} {f : α → Except ε β} {xs : List α} {ys : List β} {y : β}
    (done : xs.mapM f = .ok ys) (member : y ∈ ys) : ∃ x ∈ xs, f x = .ok y := by
  have all := mapM_eq_ok.1 done
  induction all with
  | nil => cases member
  | cons first all ih =>
    rcases List.mem_cons.1 member with rfl | member
    · exact ⟨_, List.mem_cons_self, first⟩
    · obtain ⟨x, belongs, same⟩ := ih (mapM_eq_ok.2 all) member
      exact ⟨x, List.mem_cons_of_mem _ belongs, same⟩

theorem compileSlot_admits {names : List String} {d : Dimension} {index : Nat}
    {filter : Option Filter} {cursor : List Nat} (compiled : compileSlot names d index = .ok filter)
    (wide : names.length = cursor.length) :
    Filter.accepts cursor filter = .ok (slotAdmits names cursor d index) := by
  unfold compileSlot at compiled
  cases declared : d.filter? index with
  | none =>
    rw [declared, Option.getD_none, Filter.compile_eq_none_iff.2 rfl] at compiled
    cases compiled
    simp only [Filter.accepts, slotAdmits, declared]
  | some source =>
    rw [declared, Option.getD_some] at compiled
    by_cases empty : source = ""
    · rw [empty, Filter.compile_eq_none_iff.2 rfl] at compiled
      cases compiled
      simp only [Filter.accepts, slotAdmits, declared, empty, if_true]
    · cases filter with
      | none => exact absurd (Filter.compile_eq_none_iff.1 compiled) empty
      | some f =>
        have within := Filter.compile_within compiled
        rw [wide] at within
        simp only [Filter.accepts, Filter.eval_eq_holds within, slotAdmits, declared, empty,
          if_false, compiled]

theorem compileSlots_length {names : List String} {d : Dimension} {slots : List (Option Filter)}
    (compiled : compileSlots names d = .ok slots) : slots.length = d.length := by
  have all := (mapM_eq_ok.1 compiled).length_eq
  simpa using all.symm

theorem compileSlots_lookup {names : List String} {d : Dimension} {slots : List (Option Filter)}
    {index : Nat} (compiled : compileSlots names d = .ok slots) (bound : index < d.length) :
    ∃ filter, lookup slots index = .ok filter ∧ compileSlot names d index = .ok filter := by
  have inside : index < slots.length := by rwa [compileSlots_length compiled]
  have slot := (mapM_eq_ok.1 compiled).get (by simpa using bound) inside
  refine ⟨slots[index], ?_, by simpa using slot⟩
  rw [lookup, List.getElem?_eq_getElem inside]

theorem filtersAccept_eq {names : List String} {cursor : List Nat} {dimensions : List Dimension}
    {filters : List (List (Option Filter))} {indexes : List Nat}
    (compiled : List.Forall₂ (fun d slots => compileSlots names d = .ok slots) dimensions filters)
    (within : List.Forall₂ (fun index d => index < Dimension.length d) indexes dimensions)
    (wide : names.length = cursor.length) :
    filtersAccept cursor filters indexes =
      .ok ((dimensions.zip indexes).all fun (d, index) => slotAdmits names cursor d index) := by
  induction compiled generalizing indexes with
  | nil =>
    cases within
    rfl
  | cons compiled _ ih =>
    cases within with
    | cons bound within =>
      obtain ⟨filter, found, slot⟩ := compileSlots_lookup compiled bound
      rw [filtersAccept, found]
      simp only [compileSlot_admits slot wide, List.zip_cons_cons, List.all_cons, ih within]
      cases slotAdmits names cursor _ _ <;> rfl

theorem choose_selects {dimensions : List Dimension} {indexes : List Nat}
    (within : List.Forall₂ (fun index d => index < Dimension.length d) indexes dimensions) :
    ∃ entries, choose dimensions indexes = .ok entries ∧ Selects dimensions indexes ⟨entries⟩ := by
  unfold Selects
  induction within with
  | nil => exact ⟨[], rfl, rfl⟩
  | @cons index d _ _ bound _ ih =>
    obtain ⟨entries, chosen, selects⟩ := ih
    have found : d.values[index]? = some d.values[index] := List.getElem?_eq_getElem bound
    refine ⟨(d.name, d.values[index]) :: entries, ?_, ?_⟩
    · simp only [choose, lookup, found, chosen]
    · simpa [found] using selects

end ParamGrid.Engine
