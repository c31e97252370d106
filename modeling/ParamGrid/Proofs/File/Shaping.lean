import Mathlib
import ParamGrid.Proofs.Engine.Construction
import ParamGrid.Proofs.File.Loading

set_option autoImplicit false

namespace ParamGrid

theorem Dimension.build_eq_ok_iff {name : String} {values : List Value}
    {filters : Option (List (Option String))} {d : Dimension} :
    build name values filters = .ok d ↔
      name ≠ "" ∧ values ≠ [] ∧ (∀ slots, filters = some slots → slots.length = values.length) ∧
        d.name = name ∧ d.values = values ∧ d.filters = filters := by
  obtain ⟨name', values', filters', -, -, -⟩ := d
  unfold build
  split
  next unnamed => simp [unnamed]
  next named =>
    split
    next empty => simp [empty]
    next filled =>
      cases filters with
      | none => simp [named, filled, eq_comm]
      | some slots =>
        by_cases length : slots.length = values.length
        · simp [named, filled, length, eq_comm]
        · simp [named, filled, length]

theorem Dimension.build_eq_error_iff {name : String} {values : List Value}
    {filters : Option (List (Option String))} {fault : ShapeFault} :
    build name values filters = .error fault ↔
      name = "" ∧ fault = .unnamed ∨
      name ≠ "" ∧ values = [] ∧ fault = .noValues name ∨
      name ≠ "" ∧ values ≠ [] ∧ ∃ slots, filters = some slots ∧ slots.length ≠ values.length ∧
        fault = .slotCount name slots.length values.length := by
  unfold build
  split
  next unnamed => simp [unnamed, eq_comm]
  next named =>
    split
    next empty => simp [named, empty, eq_comm]
    next filled =>
      cases filters with
      | none => simp [named, filled]
      | some slots =>
        by_cases length : slots.length = values.length
        · simp [named, filled, length, eq_comm]
        · simp only [length, named, filled, dite_false, Except.error.injEq, ne_eq, not_false_eq_true,
            Option.some.injEq, exists_eq_left', true_and, false_and, false_or]
          exact eq_comm

namespace File

open Engine (mapM_eq_ok mapM_eq_error_iff mapM_ok_iff)

namespace DimensionRecord

variable {r : DimensionRecord}

structure Complete (r : DimensionRecord) : Prop where
  named : r.name ≠ ""
  filled : r.entries ≠ []

inductive Lacks : DimensionRecord → ShapeFault → Prop where
  | name {r : DimensionRecord} : r.name = "" → Lacks r .unnamed
  | entries {r : DimensionRecord} : r.name ≠ "" → r.entries = [] → Lacks r (.noValues r.name)

structure Shapes (r : DimensionRecord) (d : Dimension) : Prop where
  name : d.name = r.name
  entry : ∀ i e, r.entries[i]? = some e → d.values[i]? = some e.value ∧ d.filter? i = e.filter
  behind : ∀ i, r.entries.length ≤ i → d.values[i]? = none ∧ d.filter? i = none
  filters : d.hasFilters = true ↔ ∃ e ∈ r.entries, ∃ source, e.filter = some source

theorem dimension_eq_error_iff {fault : ShapeFault} : r.dimension = .error fault ↔ r.Lacks fault := by
  unfold dimension
  rw [Dimension.build_eq_error_iff]
  constructor
  · rintro (⟨unnamed, rfl⟩ | ⟨named, empty, rfl⟩ | ⟨-, -, slots, declared, length, -⟩)
    · exact .name unnamed
    · exact .entries named (by simpa using empty)
    · -- There are as many slots as values, one of each for every entry.
      split at declared
      · cases declared
        simp at length
      · cases declared
  · rintro (unnamed | ⟨named, empty⟩)
    · exact .inl ⟨unnamed, rfl⟩
    · exact .inr (.inl ⟨named, by simp [empty], rfl⟩)

theorem dimension_ok_iff : (∃ d, r.dimension = .ok d) ↔ r.Complete := by
  rw [Engine.exists_ok_iff]
  simp only [ne_eq, dimension_eq_error_iff]
  constructor
  · intro lacks
    have named : r.name ≠ "" := fun unnamed => lacks _ (.name unnamed)
    exact ⟨named, fun empty => lacks _ (.entries named empty)⟩
  · rintro ⟨named, filled⟩ fault (unnamed | ⟨-, empty⟩)
    · exact named unnamed
    · exact filled empty

theorem any_isSome_iff (entries : List Entry) :
    (entries.map Entry.filter).any Option.isSome = true ↔
      ∃ e ∈ entries, ∃ source, e.filter = some source := by
  simp [Option.isSome_iff_exists]

theorem shapes_of_dimension {d : Dimension} (shaped : r.dimension = .ok d) : r.Shapes d := by
  unfold dimension at shaped
  obtain ⟨-, -, -, name, values, filters⟩ := Dimension.build_eq_ok_iff.1 shaped
  have value : ∀ i : Nat, d.values[i]? = (r.entries[i]?).map Entry.value := by simp [values]
  have filter : ∀ i : Nat, d.filter? i = (r.entries[i]?).bind Entry.filter := by
    intro i
    unfold Dimension.filter?
    rw [filters]
    split
    next slots declared =>
      split at declared
      · cases declared
        rw [List.getElem?_map]
        cases r.entries[i]? <;> rfl
      · cases declared
    next undeclared =>
      split at undeclared
      · cases undeclared
      next none =>
        rw [any_isSome_iff] at none
        cases entry : r.entries[i]? with
        | none => rfl
        | some e =>
          refine (Option.eq_none_iff_forall_ne_some.2 fun source declared => none ?_).symm
          exact ⟨e, List.mem_of_getElem? entry, source, declared⟩
  refine ⟨name, fun i e entry => ?_, fun i past => ?_, ?_⟩
  · exact ⟨by rw [value, entry]; rfl, by rw [filter, entry]; rfl⟩
  · have none : r.entries[i]? = none := List.getElem?_eq_none past
    exact ⟨by rw [value, none]; rfl, by rw [filter, none]; rfl⟩
  · rw [← any_isSome_iff, Dimension.hasFilters, filters]
    split <;> simp_all

end DimensionRecord

variable {source : String} {file : File} {test : Option String} {choice : Choice} {records : Block}

theorem dimensions_eq_error_iff {fault : ShapeFault} :
    dimensions records = .error fault ↔
      ∃ (place : Nat) (r : DimensionRecord), records[place]? = some r ∧ r.Lacks fault ∧
        ∀ earlier < place, ∀ s, records[earlier]? = some s → s.Complete := by
  simp only [dimensions, mapM_eq_error_iff, DimensionRecord.dimension_eq_error_iff,
    DimensionRecord.dimension_ok_iff]

/-- A block whose records are complete becomes their dimensions, in order and each with what its record
holds. Any other block is refused for the first record that lacks something, and never for the number
of its filters. -/
theorem block_takes_shape (decoded : read? source = .ok file)
    (chosen : file.choose test = .ok (choice, records)) :
    ((∃ ds, (loadDimensions source test).result = .ok ds) ↔ ∀ r ∈ records, r.Complete) ∧
      (∀ ds, (loadDimensions source test).result = .ok ds →
        List.Forall₂ DimensionRecord.Shapes records ds) ∧
      (∀ e, (loadDimensions source test).result = .error e ↔
        ∃ (place : Nat) (r : DimensionRecord) (fault : ShapeFault), records[place]? = some r ∧
          r.Lacks fault ∧ (∀ earlier < place, ∀ s, records[earlier]? = some s → s.Complete) ∧
          e = .shape fault) ∧
      ∀ name slots values,
        (loadDimensions source test).result ≠ .error (.shape (.slotCount name slots values)) := by
  have loads : (loadDimensions source test).result = orShapeError (dimensions records) := by
    rw [loadDimensions_of_decoded decoded, chosen]
  simp only [loads, orShapeError_eq_ok_iff, orShapeError_eq_error_iff, ne_eq]
  refine ⟨?_, fun ds shaped => ?_, fun e => ?_, ?_⟩
  · simp only [dimensions, mapM_ok_iff, DimensionRecord.dimension_ok_iff]
  · exact (mapM_eq_ok.1 shaped).imp fun _ _ => DimensionRecord.shapes_of_dimension
  · simp only [dimensions_eq_error_iff]
    constructor
    · rintro ⟨fault, ⟨place, r, placed, lacks, before⟩, rfl⟩
      exact ⟨place, r, fault, placed, lacks, before, rfl⟩
    · rintro ⟨place, r, fault, placed, lacks, before, rfl⟩
      exact ⟨fault, ⟨place, r, placed, lacks, before⟩, rfl⟩
  · rintro name slots values ⟨fault, refused, same⟩
    obtain ⟨place, r, -, lacks, -⟩ := dimensions_eq_error_iff.1 refused
    cases same
    cases lacks

def mixedSource : String :=
  "combinations: [\x7bname: A, values: [x, [y, '']]\x7d]"

def mixedRecord : DimensionRecord := ⟨"A", [⟨.text "x", none⟩, ⟨.text "y", some ""⟩]⟩

def bareSource : String :=
  "tests: \x7bT: \x7bcombinations: [\x7bname: '', values: []\x7d]\x7d\x7d"

theorem mixed_entries_take_shape :
    (∃ d, (loadDimensions mixedSource none).result = .ok [d] ∧ mixedRecord.Shapes d) ∧
      (loadDimensions bareSource none).result = .error (.shape .unnamed) := by
  have mixed : read? mixedSource = .ok ⟨some [mixedRecord], .empty⟩ := by cbv
  have bare : read? bareSource = .ok ⟨none, ⟨[("T", [⟨"", []⟩])], by simp⟩⟩ := by cbv
  constructor
  · have chosen : File.choose ⟨some [mixedRecord], .empty⟩ none = .ok (.top, [mixedRecord]) := rfl
    obtain ⟨loads, shapes, -⟩ := block_takes_shape mixed chosen
    have complete : mixedRecord.Complete := ⟨by decide, by simp [mixedRecord]⟩
    obtain ⟨ds, loaded⟩ := loads.2 (by simpa using complete)
    obtain ⟨d, rest, shape, none, rfl⟩ := List.forall₂_cons_left_iff.1 (shapes ds loaded)
    cases none
    exact ⟨d, loaded, shape⟩
  · have chosen : File.choose ⟨none, ⟨[("T", [⟨"", []⟩])], by simp⟩⟩ none =
        .ok (.firstTest "T", [⟨"", []⟩]) := rfl
    obtain ⟨-, -, refused, -⟩ := block_takes_shape bare chosen
    exact (refused _).2 ⟨0, ⟨"", []⟩, .unnamed, rfl, .name rfl, by simp, rfl⟩

end File

end ParamGrid
