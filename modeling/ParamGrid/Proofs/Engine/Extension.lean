import ParamGrid.Proofs.Engine.Acceptance
import ParamGrid.Proofs.Engine.Construction
import ParamGrid.Proofs.Filter.Extension

set_option autoImplicit false

namespace ParamGrid

def Dimension.Unfiltered (d : Dimension) : Prop :=
  ∀ index, (d.filter? index).getD "" = ""

namespace Engine

variable {σ : Type} {names : List String} {dimensions upper : List Dimension} {d x : Dimension}
  {cursor high : List Nat}

theorem compileSlot_unfiltered (names : List String) (free : d.Unfiltered) (index : Nat) :
    compileSlot names d index = .ok none := by
  rw [compileSlot, free index]
  exact Filter.compile_eq_none_iff.2 rfl

theorem slotAdmits_unfiltered (free : d.Unfiltered) (index : Nat) :
    slotAdmits names cursor d index = true := by
  have empty := free index
  unfold slotAdmits
  cases declared : d.filter? index with
  | none => rfl
  | some source =>
    rw [declared, Option.getD_some] at empty
    simp [empty]

theorem Compiles.append_names (more : List String) (compiles : Compiles names d) :
    Compiles (names ++ more) d := by
  intro index bound
  obtain ⟨filter, compiled⟩ := compiles index bound
  exact ⟨filter, Filter.compile_append_names more compiled⟩

theorem slotAdmits_append {index : Nat} {more : List String} (compiles : Compiles names d)
    (bound : index < d.length) (wide : names.length = cursor.length)
    (wideHigh : more.length = high.length) :
    slotAdmits (names ++ more) (cursor ++ high) d index = slotAdmits names cursor d index := by
  obtain ⟨filter, compiled⟩ := compiles index bound
  have before := Filter.accepts_append high (compileSlot_admits compiled wide)
  have after : Filter.accepts (cursor ++ high) filter =
      .ok (slotAdmits (names ++ more) (cursor ++ high) d index) :=
    compileSlot_admits (Filter.compile_append_names more compiled) (by simp [wide, wideHigh])
  exact Except.ok.inj (after.symm.trans before)

theorem admits_append (compiles : ∀ d ∈ dimensions, Compiles (dimensions.map Dimension.name) d)
    (within : List.Forall₂ (fun index d => index < Dimension.length d) cursor dimensions)
    (free : ∀ d ∈ upper, d.Unfiltered) (long : high.length = upper.length) :
    admits (dimensions ++ upper) (cursor ++ high) = admits dimensions cursor := by
  have lower : ∀ pair ∈ dimensions.zip cursor,
      slotAdmits (dimensions.map Dimension.name ++ upper.map Dimension.name) (cursor ++ high)
          pair.1 pair.2 =
        slotAdmits (dimensions.map Dimension.name) cursor pair.1 pair.2 := by
    rintro ⟨d, index⟩ member
    have bound : index < d.length :=
      (List.forall₂_iff_zip.1 within.flip).2 member
    exact slotAdmits_append (compiles d (List.of_mem_zip member).1) bound
      (by simp [within.length_eq]) (by simp [long])
  have higher : ∀ pair ∈ upper.zip high,
      slotAdmits (dimensions.map Dimension.name ++ upper.map Dimension.name) (cursor ++ high)
        pair.1 pair.2 = true :=
    fun pair member => slotAdmits_unfiltered (free pair.1 (List.of_mem_zip member).1) pair.2
  simp only [admits, List.map_append, List.zip_append within.length_eq.symm, List.all_append]
  rw [List.all_eq_true.2 higher, Bool.and_true, Bool.eq_iff_iff, List.all_eq_true, List.all_eq_true]
  exact forall₂_congr fun pair member => by rw [lower pair member]

theorem accepted_append (nonempty : dimensions ≠ [])
    (compiles : ∀ d ∈ dimensions, Compiles (dimensions.map Dimension.name) d)
    (free : ∀ d ∈ upper, d.Unfiltered) :
    accepted (dimensions ++ upper) =
      (Odometer.readings (upper.map Dimension.length)).flatMap fun high =>
        (accepted dimensions).map (· ++ high) := by
  have occupied : (dimensions ++ upper).isEmpty = false := by simp [nonempty]
  -- The new digits are the high ones: the readings come in blocks, one for each reading of them.
  rw [accepted, accepted, occupied, List.isEmpty_eq_false_iff.2 nonempty, if_neg (by simp),
    if_neg (by simp), List.map_append, Odometer.readings_append, List.filter_flatMap]
  refine List.flatMap_congr fun high memberHigh => ?_
  have long : high.length = upper.length := by
    simpa using (Odometer.mem_readings.1 memberHigh).length_eq
  rw [List.filter_map]
  congr 1
  refine List.filter_congr fun cursor member => ?_
  have within := Odometer.mem_readings.1 member
  rw [Odometer.Within, List.forall₂_map_right_iff] at within
  exact admits_append compiles within free long

theorem new_append_ok (distinct : ((dimensions ++ upper).map Dimension.name).Nodup)
    (free : ∀ d ∈ upper, d.Unfiltered) (built : ∃ e : Engine σ, Engine.new dimensions = .ok e) :
    ∃ e : Engine σ, Engine.new (dimensions ++ upper) = .ok e := by
  obtain ⟨-, compiles⟩ := new_ok_iff.1 built
  refine new_ok_iff.2 ⟨distinct, fun d member => ?_⟩
  rw [List.map_append]
  rcases List.mem_append.1 member with old | new
  · exact (compiles d old).append_names _
  · exact fun index _ => ⟨none, compileSlot_unfiltered _ (free d new) index⟩

/-- Behind the others, a dimension with a name of its own and no filters repeats their run once for
each of its values, in the order of the values. -/
theorem appended_dimension_repeats {e : Engine σ} (nonempty : dimensions ≠ [])
    (built : Engine.new dimensions = .ok e) (fresh : x.name ∉ dimensions.map Dimension.name)
    (free : x.Unfiltered) :
    ∃ (extended : Engine σ) (r s : Run σ), Engine.new (dimensions ++ [x]) = .ok extended ∧
      e.run = .ok r ∧ extended.run = .ok s ∧
      r.cursors = accepted dimensions ∧ s.cursors = accepted (dimensions ++ [x]) ∧
      s.cursors = (List.range x.length).flatMap (fun j => r.cursors.map (· ++ [j])) ∧
      s.cursors.length = x.length * r.cursors.length ∧
      s.cursors.take r.cursors.length = r.cursors.map (· ++ [0]) := by
  obtain ⟨distinct, compiles⟩ := new_ok_iff.1 ⟨e, built⟩
  have distinctAll : ((dimensions ++ [x]).map Dimension.name).Nodup := by
    simpa [List.nodup_append, distinct] using fresh
  have freeAll : ∀ d ∈ [x], d.Unfiltered := List.forall_mem_singleton.2 free
  obtain ⟨extended, builtExtended⟩ := new_append_ok distinctAll freeAll ⟨e, built⟩
  obtain ⟨r, ran, cursors, -⟩ := run_accepts built
  obtain ⟨s, ranExtended, cursorsExtended, -⟩ := run_accepts builtExtended
  have blocks : s.cursors = (List.range x.length).flatMap fun j => r.cursors.map (· ++ [j]) := by
    rw [cursorsExtended, cursors, accepted_append nonempty compiles freeAll, List.map_singleton,
      Odometer.readings_singleton, List.flatMap_map]
  refine ⟨extended, r, s, builtExtended, ran, ranExtended, cursors, cursorsExtended, blocks, ?_, ?_⟩
  · simp [blocks, List.length_flatMap]
  · obtain ⟨k, more⟩ := Nat.exists_eq_add_one_of_ne_zero (Nat.ne_of_gt x.length_pos)
    rw [blocks, more, List.range_succ_eq_map, List.flatMap_cons]
    exact List.take_left' (by simp)

def fits : Dimension :=
  ⟨"Fit", [.text "Slim", .text "Wide"], none, by decide, by simp, by simp⟩

theorem shirts_repeat_for_fits :
    shirts ≠ [] ∧ (Engine.new shirts : Except Error (Engine Nat)) = .ok shirtEngine ∧
      fits.name ∉ shirts.map Dimension.name ∧ fits.Unfiltered ∧
      ∃ (extended : Engine Nat) (r s : Run Nat), Engine.new (shirts ++ [fits]) = .ok extended ∧
        shirtEngine.run = .ok r ∧ extended.run = .ok s ∧
        r.cursors = [[0, 0], [1, 0], [2, 0], [0, 1]] ∧
        s.cursors = r.cursors.map (· ++ [0]) ++ r.cursors.map (· ++ [1]) := by
  have nonempty : shirts ≠ [] := List.cons_ne_nil _ _
  have fresh : fits.name ∉ shirts.map Dimension.name := by decide
  have free : fits.Unfiltered := fun _ => rfl
  obtain ⟨extended, r, s, built, ran, ranExtended, before, -, blocks, -⟩ :=
    appended_dimension_repeats (σ := Nat) nonempty new_shirts fresh free
  refine ⟨nonempty, new_shirts, fresh, free, extended, r, s, built, ran, ranExtended,
    before.trans accepted_shirts, ?_⟩
  simpa [fits, Dimension.length, List.range_succ] using blocks

end Engine

end ParamGrid
