import ParamGrid.Proofs.Engine.Selection
import ParamGrid.Proofs.Filter.Renumber

set_option autoImplicit false

namespace ParamGrid

theorem Dimension.filter?_of_le {d : Dimension} {index : Nat} (outside : d.length ≤ index) :
    d.filter? index = none := by
  unfold Dimension.filter?
  cases declared : d.filters with
  | none => rfl
  | some slots =>
    have length : slots.length = d.length := d.length_filters slots declared
    simp [List.getElem?_eq_none (length ▸ outside)]

namespace Engine

variable {σ : Type}

def Compiles (names : List String) (d : Dimension) : Prop :=
  ∀ index < d.length, ∃ filter, compileSlot names d index = .ok filter

theorem repeated?_eq_none_iff {seen names : List String} :
    repeated? seen names = none ↔ names.Nodup ∧ ∀ name ∈ names, name ∉ seen := by
  induction names generalizing seen with
  | nil => simp [repeated?]
  | cons name names ih =>
    rw [repeated?]
    by_cases again : name ∈ seen
    · simp [again]
    · rw [if_neg again, ih, List.nodup_cons, List.forall_mem_cons]
      simp only [List.mem_cons, not_or]
      constructor
      · rintro ⟨distinct, fresh⟩
        exact ⟨⟨fun member => (fresh name member).1 rfl, distinct⟩, again,
          fun n member => (fresh n member).2⟩
      · rintro ⟨⟨first, distinct⟩, -, fresh⟩
        exact ⟨distinct, fun n member => ⟨fun same => first (same ▸ member), fresh n member⟩⟩

theorem nodup_iff {names : List String} : names.Nodup ↔ repeated? [] names = none := by
  simp [repeated?_eq_none_iff]

theorem mapM_ok_iff {α β ε : Type} {f : α → Except ε β} {xs : List α} :
    (∃ ys, xs.mapM f = .ok ys) ↔ ∀ x ∈ xs, ∃ y, f x = .ok y := by
  simp only [mapM_eq_ok]
  induction xs with
  | nil => simp
  | cons x xs ih => simp [List.forall₂_cons_left_iff, ← ih]

theorem compileSlots_ok_iff {names : List String} {d : Dimension} :
    (∃ slots, compileSlots names d = .ok slots) ↔ Compiles names d := by
  unfold compileSlots Compiles
  simp only [mapM_ok_iff, List.mem_range]

theorem new_eq_ok_iff {dimensions : List Dimension} {e : Engine σ} :
    Engine.new dimensions = .ok e ↔
      (dimensions.map Dimension.name).Nodup ∧
        ∃ filters, dimensions.mapM (compileSlots (dimensions.map Dimension.name)) = .ok filters ∧
          e = ⟨dimensions, filters, Odometer.zeros (dimensions.map Dimension.length), true, .pending,
            false, none⟩ := by
  rw [nodup_iff]
  unfold Engine.new
  dsimp only
  cases repeated? [] (dimensions.map Dimension.name) with
  | some name => simp
  | none =>
    cases dimensions.mapM (compileSlots (dimensions.map Dimension.name)) with
    | error e => simp
    | ok filters => simpa using eq_comm

theorem new_ok_iff {dimensions : List Dimension} :
    (∃ e : Engine σ, Engine.new dimensions = .ok e) ↔
      (dimensions.map Dimension.name).Nodup ∧
        ∀ d ∈ dimensions, Compiles (dimensions.map Dimension.name) d := by
  simp only [new_eq_ok_iff, ← compileSlots_ok_iff, ← mapM_ok_iff]
  constructor
  · rintro ⟨_, distinct, filters, compiled, -⟩
    exact ⟨distinct, filters, compiled⟩
  · rintro ⟨distinct, filters, compiled⟩
    exact ⟨_, distinct, filters, compiled, rfl⟩

theorem Compiles.of_known {names others : List String} {d : Dimension}
    (known : ∀ name ∈ names, name ∈ others) (compiles : Compiles names d) : Compiles others d := by
  intro index bound
  obtain ⟨filter, compiled⟩ := compiles index bound
  exact Filter.compile_ok_of_known known compiled

theorem new_ok_of_perm {dimensions others : List Dimension} (same : dimensions.Perm others)
    (built : ∃ e : Engine σ, Engine.new dimensions = .ok e) :
    ∃ e : Engine σ, Engine.new others = .ok e := by
  obtain ⟨distinct, compiles⟩ := new_ok_iff.1 built
  have names := same.map Dimension.name
  refine new_ok_iff.2 ⟨names.nodup_iff.1 distinct, fun d member => ?_⟩
  exact (compiles d (same.mem_iff.2 member)).of_known fun _ => names.mem_iff.1

theorem mapM_eq_error_iff {α β ε : Type} {f : α → Except ε β} {xs : List α} {e : ε} :
    xs.mapM f = .error e ↔
      ∃ (place : Nat) (x : α), xs[place]? = some x ∧ f x = .error e ∧
        ∀ earlier < place, ∀ y, xs[earlier]? = some y → ∃ b, f y = .ok b := by
  induction xs with
  | nil => simp [pure, Except.pure]
  | cons x xs ih =>
    rw [List.mapM_cons, ← Nat.or_exists_add_one]
    simp only [List.getElem?_cons_zero, List.getElem?_cons_succ, Nat.forall_lt_succ_left]
    cases first : f x with
    | error e' => simp [bind, Except.bind, first]
    | ok b =>
      cases later : xs.mapM f <;>
        simp [bind, Except.bind, pure, Except.pure, first, ← ih, later]

theorem repeated?_eq_some_iff {seen names : List String} {name : String} :
    repeated? seen names = some name ↔
      ∃ place, names[place]? = some name ∧ (name ∈ seen ∨ name ∈ names.take place) ∧
        (names.take place).Nodup ∧ ∀ n ∈ names.take place, n ∉ seen := by
  induction names generalizing seen with
  | nil => simp [repeated?]
  | cons n names ih =>
    rw [repeated?, ← Nat.or_exists_add_one]
    simp only [List.getElem?_cons_zero, List.getElem?_cons_succ, List.take_zero, List.take_succ_cons]
    by_cases again : n ∈ seen
    · have here : n = name → name ∈ seen := fun same => same ▸ again
      simpa [again] using here
    · have notHere : ¬ (n = name ∧ name ∈ seen) := fun ⟨same, member⟩ => again (same ▸ member)
      rw [if_neg again, ih]
      simp only [List.not_mem_nil, or_false, List.nodup_nil, false_implies, implies_true, and_true,
        Option.some.injEq, notHere, false_or]
      refine exists_congr fun place => and_congr_right fun _ => ?_
      grind

def Refuses (dimensions : List Dimension) (place index : Nat) (e : Error) : Prop :=
  ∃ d source, dimensions[place]? = some d ∧ d.filter? index = some source ∧
    Filter.compile (dimensions.map Dimension.name) (d.name ++ "[" ++ toString index ++ "]") source =
      .error e ∧
    e.source? = some (d.name ++ "[" ++ toString index ++ "]", source)

inductive FirstFault (dimensions : List Dimension) : Error → Prop where
  | repeated {place : Nat} {d : Dimension} :
      dimensions[place]? = some d →
      d.name ∈ (dimensions.take place).map Dimension.name →
      ((dimensions.take place).map Dimension.name).Nodup →
      FirstFault dimensions (.shape (.repeated d.name))
  | refused {place index : Nat} {e : Error} :
      (dimensions.map Dimension.name).Nodup →
      Refuses dimensions place index e →
      (∀ before earlier, before < place ∨ before = place ∧ earlier < index →
        ∀ other, ¬ Refuses dimensions before earlier other) →
      FirstFault dimensions e

theorem compileSlot_eq_error_iff {names : List String} {d : Dimension} {index : Nat} {e : Error} :
    compileSlot names d index = .error e ↔
      ∃ source, d.filter? index = some source ∧
        Filter.compile names (slotName d index) source = .error e := by
  unfold compileSlot
  cases d.filter? index with
  | some source => simp
  | none => simp [Filter.compile_eq_none_iff.2]

theorem refuses_iff {dimensions : List Dimension} {place index : Nat} {e : Error} :
    Refuses dimensions place index e ↔
      ∃ d, dimensions[place]? = some d ∧
        compileSlot (dimensions.map Dimension.name) d index = .error e := by
  simp only [compileSlot_eq_error_iff]
  constructor
  · rintro ⟨d, source, found, declared, refused, -⟩
    exact ⟨d, found, source, declared, refused⟩
  · rintro ⟨d, found, source, declared, refused⟩
    refine ⟨d, source, found, declared, refused, ?_⟩
    obtain ⟨fault, -, rfl⟩ := Filter.compile_eq_error_iff.1 refused
    rfl

theorem exists_ok_iff {α ε : Type} {x : Except ε α} : (∃ a, x = .ok a) ↔ ∀ e, x ≠ .error e := by
  cases x <;> simp

theorem lt_of_compileSlot_error {names : List String} {d : Dimension} {index : Nat} {e : Error}
    (refused : compileSlot names d index = .error e) : index < d.length := by
  obtain ⟨source, declared, -⟩ := compileSlot_eq_error_iff.1 refused
  by_contra outside
  rw [Dimension.filter?_of_le (Nat.le_of_not_lt outside)] at declared
  cases declared

theorem compiles_iff {names : List String} {d : Dimension} :
    Compiles names d ↔ ∀ index e, compileSlot names d index ≠ .error e := by
  constructor
  · intro compiles index e refused
    obtain ⟨filter, compiled⟩ := compiles index (lt_of_compileSlot_error refused)
    rw [compiled] at refused
    cases refused
  · exact fun accepted index _ => exists_ok_iff.2 (accepted index)

theorem compileSlots_eq_error_iff {names : List String} {d : Dimension} {e : Error} :
    compileSlots names d = .error e ↔
      ∃ index, compileSlot names d index = .error e ∧
        ∀ earlier < index, ∀ other, compileSlot names d earlier ≠ .error other := by
  simp only [compileSlots, mapM_eq_error_iff, ← exists_ok_iff]
  constructor
  · rintro ⟨index, found, placed, refused, before⟩
    obtain ⟨bound, rfl⟩ := List.getElem?_eq_some_iff.1 placed
    rw [List.getElem_range] at refused
    refine ⟨index, refused, fun earlier lower => before earlier lower earlier ?_⟩
    exact List.getElem?_range (Nat.lt_trans lower (lt_of_compileSlot_error refused))
  · rintro ⟨index, refused, before⟩
    refine ⟨index, index, List.getElem?_range (lt_of_compileSlot_error refused), refused, ?_⟩
    intro earlier lower other placed
    obtain ⟨bound, rfl⟩ := List.getElem?_eq_some_iff.1 placed
    rw [List.getElem_range]
    exact before earlier lower

theorem mapM_compileSlots_eq_error_iff {dimensions : List Dimension} {e : Error} :
    dimensions.mapM (compileSlots (dimensions.map Dimension.name)) = .error e ↔
      ∃ place index, Refuses dimensions place index e ∧
        ∀ before earlier, before < place ∨ before = place ∧ earlier < index →
          ∀ other, ¬ Refuses dimensions before earlier other := by
  -- First by dimensions and then by values, which is the order of the pairs.
  simp only [mapM_eq_error_iff, compileSlots_ok_iff, compiles_iff, compileSlots_eq_error_iff,
    refuses_iff]
  constructor
  · rintro ⟨place, d, found, ⟨index, refused, inside⟩, before⟩
    refine ⟨place, index, ⟨d, found, refused⟩, ?_⟩
    rintro other earlier (lower | ⟨rfl, lower⟩) fault ⟨d', there, refused'⟩
    · exact before other lower d' there earlier fault refused'
    · rw [found] at there
      cases there
      exact inside earlier lower fault refused'
  · rintro ⟨place, index, ⟨d, found, refused⟩, before⟩
    refine ⟨place, d, found, ⟨index, refused, fun earlier lower fault refused' => ?_⟩, ?_⟩
    · exact before place earlier (.inr ⟨rfl, lower⟩) fault ⟨d, found, refused'⟩
    · exact fun other lower d' there earlier fault refused' =>
        before other earlier (.inl lower) fault ⟨d', there, refused'⟩

theorem new_eq_error_iff {dimensions : List Dimension} {e : Error} :
    (Engine.new dimensions : Except Error (Engine σ)) = .error e ↔
      (∃ name, repeated? [] (dimensions.map Dimension.name) = some name ∧
        e = .shape (.repeated name)) ∨
      (dimensions.map Dimension.name).Nodup ∧
        dimensions.mapM (compileSlots (dimensions.map Dimension.name)) = .error e := by
  rw [nodup_iff]
  unfold Engine.new
  dsimp only
  cases repeated? [] (dimensions.map Dimension.name) with
  | some name => simp [eq_comm]
  | none => cases dimensions.mapM (compileSlots (dimensions.map Dimension.name)) <;> simp

theorem repeated?_names_iff {dimensions : List Dimension} {name : String} :
    repeated? [] (dimensions.map Dimension.name) = some name ↔
      ∃ place d, dimensions[place]? = some d ∧ d.name = name ∧
        d.name ∈ (dimensions.take place).map Dimension.name ∧
        ((dimensions.take place).map Dimension.name).Nodup := by
  rw [repeated?_eq_some_iff]
  refine exists_congr fun place => ?_
  simp only [← List.map_take, List.getElem?_map, Option.map_eq_some_iff, List.not_mem_nil, false_or,
    not_false_eq_true, implies_true, and_true]
  constructor
  · rintro ⟨⟨d, found, rfl⟩, again, distinct⟩
    exact ⟨d, found, rfl, again, distinct⟩
  · rintro ⟨d, found, rfl, again, distinct⟩
    exact ⟨⟨d, found, rfl⟩, again, distinct⟩

theorem new_eq_firstFault {dimensions : List Dimension} {e : Error} :
    (Engine.new dimensions : Except Error (Engine σ)) = .error e ↔ FirstFault dimensions e := by
  simp only [new_eq_error_iff, mapM_compileSlots_eq_error_iff, repeated?_names_iff]
  constructor
  · rintro (⟨name, ⟨place, d, found, rfl, again, before⟩, rfl⟩ |
      ⟨distinct, place, index, refuses, before⟩)
    · exact .repeated found again before
    · exact .refused distinct refuses before
  · rintro (⟨found, again, before⟩ | ⟨distinct, refuses, before⟩)
    · exact .inl ⟨_, ⟨_, _, found, rfl, again, before⟩, rfl⟩
    · exact .inr ⟨distinct, _, _, refuses, before⟩

theorem compiles_iff_sources {names : List String} {d : Dimension} :
    Compiles names d ↔ ∀ index source, d.filter? index = some source →
      ∃ filter, Filter.compile names (slotName d index) source = .ok filter := by
  simp only [compiles_iff, exists_ok_iff, ne_eq, compileSlot_eq_error_iff, not_exists, not_and]
  exact forall_congr' fun index => forall_comm.trans (forall_congr' fun source => forall_comm)

/-- An engine is built exactly for names that are distinct and filters that compile over all of them,
whether they name earlier or later dimensions. Every other list is refused with its first fault. -/
theorem new_reports_first_fault (dimensions : List Dimension) :
    ((∃ engine : Engine σ, Engine.new dimensions = .ok engine) ↔
        (dimensions.map Dimension.name).Nodup ∧
          ∀ d ∈ dimensions, ∀ index source, d.filter? index = some source →
            ∃ filter, Filter.compile (dimensions.map Dimension.name)
              (d.name ++ "[" ++ toString index ++ "]") source = .ok filter) ∧
      ∀ e, (Engine.new dimensions : Except Error (Engine σ)) = .error e ↔ FirstFault dimensions e := by
  refine ⟨?_, fun e => new_eq_firstFault⟩
  simp only [new_ok_iff, compiles_iff_sources]
  rfl

end Engine

end ParamGrid
