import ParamGrid.Proofs.Arrangement
import ParamGrid.Proofs.Engine.Acceptance
import ParamGrid.Proofs.Engine.Construction

set_option autoImplicit false

namespace ParamGrid.Engine

variable {σ : Type} {order : List Nat} {dimensions : List Dimension} {cursor : List Nat}

theorem slotAdmits_congr {names others : List String} {moved : List Nat}
    (known : ∀ name, name ∈ names ↔ name ∈ others) (wide : names.length = cursor.length)
    (same : ∀ dimension < cursor.length,
      moved[Filter.renumbering names others dimension]? = cursor[dimension]?)
    (d : Dimension) (index : Nat) :
    slotAdmits others moved d index = slotAdmits names cursor d index := by
  unfold slotAdmits
  cases d.filter? index with
  | none => rfl
  | some source =>
    by_cases empty : source = ""
    · simp only [empty, if_true]
    simp only [empty, if_false]
    cases compiled : Filter.compile names (slotName d index) source with
    | error =>
      cases other : Filter.compile others (slotName d index) source with
      | error => rfl
      | ok =>
        obtain ⟨_, back⟩ := Filter.compile_ok_of_known (fun name => (known name).2) other
        rw [compiled] at back
        cases back
    | ok filter =>
      cases filter with
      | none => exact absurd (Filter.compile_eq_none_iff.1 compiled) empty
      | some f =>
        have within := Filter.compile_within compiled
        rw [wide] at within
        rw [Filter.compile_renumber (fun name => (known name).1) compiled]
        exact Filter.holds_renumber within same

theorem getElem?_renumbering_arrange {names : List String} {dimension : Nat}
    (permutes : order.Perm (List.range names.length)) (distinct : names.Nodup)
    (wide : names.length = cursor.length) (bound : dimension < cursor.length) :
    (arrange order cursor)[Filter.renumbering names (arrange order names) dimension]? =
      cursor[dimension]? := by
  have inside := inside_of_perm permutes
  have named : dimension < names.length := by rwa [wide]
  have found := Filter.getElem?_renumbering (List.getElem?_eq_getElem named)
    ((arrange_perm permutes).mem_iff.2 (List.getElem_mem named))
  rw [getElem?_arrange inside, Option.bind_eq_some_iff] at found
  obtain ⟨place, listed, placed⟩ := found
  obtain ⟨placeNamed, same⟩ := List.getElem?_eq_some_iff.1 placed
  obtain rfl : place = dimension := (distinct.getElem_inj_iff).1 same
  rw [getElem?_arrange (wide ▸ inside), listed]
  rfl

theorem admits_arrange (permutes : order.Perm (List.range dimensions.length))
    (distinct : (dimensions.map Dimension.name).Nodup) (long : cursor.length = dimensions.length) :
    admits (arrange order dimensions) (arrange order cursor) = admits dimensions cursor := by
  have wide : (dimensions.map Dimension.name).length = cursor.length := by simp [long]
  have named : order.Perm (List.range (dimensions.map Dimension.name).length) := by simpa
  have pairs : (arrange order (dimensions.zip cursor)).Perm (dimensions.zip cursor) :=
    arrange_perm (by simpa [long] using permutes)
  have slots (d : Dimension) (index : Nat) :=
    slotAdmits_congr (fun _ => (arrange_perm named).mem_iff.symm) wide
      (fun _ => getElem?_renumbering_arrange named distinct wide) d index
  simp only [admits, map_arrange, zip_arrange order long.symm, pairs.all_eq, slots]

theorem arrange_mem_accepted (permutes : order.Perm (List.range dimensions.length))
    (distinct : (dimensions.map Dimension.name).Nodup) (long : cursor.length = dimensions.length) :
    arrange order cursor ∈ accepted (arrange order dimensions) ↔ cursor ∈ accepted dimensions := by
  have sizes : (dimensions.map Dimension.length).length = cursor.length := by simp [long]
  rw [mem_accepted, mem_accepted, Ne, arrange_eq_nil_iff permutes, map_arrange, Odometer.Within,
    forall₂_arrange (long ▸ permutes) sizes.symm, admits_arrange permutes distinct long,
    Odometer.Within]

theorem mem_accepted_arrange (permutes : order.Perm (List.range dimensions.length))
    (distinct : (dimensions.map Dimension.name).Nodup) :
    cursor ∈ accepted (arrange order dimensions) ↔
      ∃ before ∈ accepted dimensions, arrange order before = cursor := by
  constructor
  · intro member
    have long : cursor.length = dimensions.length := by
      rw [(accepted_within member).length_eq, (arrange_perm permutes).length_eq]
    obtain ⟨before, length, rfl⟩ := exists_arrange (long ▸ permutes)
    have lengthBefore : before.length = dimensions.length := by
      rw [length, long]
    exact ⟨before, (arrange_mem_accepted permutes distinct lengthBefore).1 member, rfl⟩
  · rintro ⟨before, member, rfl⟩
    exact (arrange_mem_accepted permutes distinct (accepted_within member).length_eq).2 member

theorem accepted_arrange_perm (permutes : order.Perm (List.range dimensions.length))
    (distinct : (dimensions.map Dimension.name).Nodup) :
    (accepted (arrange order dimensions)).Perm ((accepted dimensions).map (arrange order)) := by
  have apart : ((accepted dimensions).map (arrange order)).Nodup := by
    refine (accepted_nodup dimensions).map_on fun a memberA b memberB same => ?_
    exact arrange_injective permutes (accepted_within memberA).length_eq
      (accepted_within memberB).length_eq same
  rw [List.perm_ext_iff_of_nodup (accepted_nodup _) apart]
  intro cursor
  rw [mem_accepted_arrange permutes distinct, List.mem_map]

theorem selected_arrange (permutes : order.Perm (List.range dimensions.length))
    (distinct : (dimensions.map Dimension.name).Nodup)
    (within : List.Forall₂ (fun index d => index < Dimension.length d) cursor dimensions) :
    (selected (arrange order dimensions) (arrange order cursor)).get? =
      (selected dimensions cursor).get? := by
  have pairs : (arrange order (dimensions.zip cursor)).Perm (dimensions.zip cursor) :=
    arrange_perm (by simpa [within.length_eq] using permutes)
  refine (Combination.get?_congr ?_ ((selected_names within).symm ▸ distinct)).symm
  simp only [selected, zip_arrange order within.length_eq.symm]
  exact (pairs.filterMap _).symm

/-- Whatever the order, an engine can be built or not; and if so, the cursors that are accepted are
the accepted ones put in that order, as many as before and with the same values for the same names. -/
theorem order_only_reorders (permutes : order.Perm (List.range dimensions.length)) :
    ((∃ e : Engine σ, Engine.new (arrange order dimensions) = .ok e) ↔
      ∃ e : Engine σ, Engine.new dimensions = .ok e) ∧
    ∀ e other : Engine σ, Engine.new dimensions = .ok e →
      Engine.new (arrange order dimensions) = .ok other →
      ∃ r s, e.run = .ok r ∧ other.run = .ok s ∧
        r.cursors = accepted dimensions ∧ s.cursors = accepted (arrange order dimensions) ∧
        (∀ cursor, cursor ∈ s.cursors ↔ ∃ before ∈ r.cursors, arrange order before = cursor) ∧
        s.combinations.length = r.combinations.length ∧
        (s.combinations.map Combination.get?).Perm (r.combinations.map Combination.get?) := by
  have same := arrange_perm permutes
  refine ⟨⟨new_ok_of_perm same, new_ok_of_perm same.symm⟩, fun e other built builtOther => ?_⟩
  have distinct := (new_ok_iff.1 ⟨e, built⟩).1
  obtain ⟨r, ran, cursors, combinations⟩ := run_accepts built
  obtain ⟨s, ranOther, cursorsOther, combinationsOther⟩ := run_accepts builtOther
  have cursorsPerm := accepted_arrange_perm permutes distinct
  refine ⟨r, s, ran, ranOther, cursors, cursorsOther, fun cursor => ?_, ?_, ?_⟩
  · rw [cursors, cursorsOther, mem_accepted_arrange permutes distinct]
  · simpa [combinations, combinationsOther] using cursorsPerm.length_eq
  · have moved := cursorsPerm.map fun cursor => (selected (arrange order dimensions) cursor).get?
    rw [List.map_map] at moved
    have assigned : (accepted dimensions).map
        ((fun cursor => (selected (arrange order dimensions) cursor).get?) ∘ arrange order) =
          (accepted dimensions).map fun cursor => (selected dimensions cursor).get? :=
      List.map_congr_left fun _ member => selected_arrange permutes distinct (accepted_within member)
    rw [assigned] at moved
    simpa [combinations, combinationsOther, Function.comp_def] using moved

theorem shirts_reordered :
    [1, 0].Perm (List.range shirts.length) ∧
      (Engine.new shirts : Except Error (Engine Nat)) = .ok shirtEngine ∧
      ∃ (other : Engine Nat) (r s : Run Nat), Engine.new (arrange [1, 0] shirts) = .ok other ∧
        shirtEngine.run = .ok r ∧ other.run = .ok s ∧
        r.cursors = [[0, 0], [1, 0], [2, 0], [0, 1]] ∧
        s.cursors = [[0, 0], [1, 0], [0, 1], [0, 2]] ∧
        ∀ cursor, cursor ∈ s.cursors ↔ ∃ before ∈ r.cursors, arrange [1, 0] before = cursor := by
  have permutes : [1, 0].Perm (List.range shirts.length) := by decide
  obtain ⟨buildable, same⟩ := @order_only_reorders Nat [1, 0] shirts permutes
  obtain ⟨other, built⟩ := buildable.2 ⟨shirtEngine, new_shirts⟩
  obtain ⟨r, s, ran, ranOther, before, after, moved, -⟩ := same shirtEngine other new_shirts built
  have reordered : accepted (arrange [1, 0] shirts) = [[0, 0], [1, 0], [0, 1], [0, 2]] := by cbv
  exact ⟨permutes, new_shirts, other, r, s, built, ran, ranOther, before.trans accepted_shirts,
    after.trans reordered, moved⟩

end ParamGrid.Engine
