import ParamGrid.Proofs.Engine.Acceptance
import ParamGrid.Proofs.Engine.Construction
import ParamGrid.Proofs.Engine.Session

set_option autoImplicit false

namespace ParamGrid

variable {c : Combination}

theorem Combination.get?_toTable (distinct : (c.entries.map Prod.fst).Nodup) (name : String) :
    c.toTable.get? name = c.get? name :=
  Table.get?_ofList distinct name

theorem Combination.get?_applyTo (distinct : (c.entries.map Prod.fst).Nodup) (table : Table Value)
    (name : String) : (c.applyTo table).get? name = (c.get? name).or (table.get? name) :=
  Table.get?_putAll_of_nodup table distinct name

theorem Combination.get?_eq_none_iff {name : String} :
    c.get? name = none ↔ name ∉ c.entries.map Prod.fst :=
  lookup_eq_none_iff_not_mem

theorem Combination.get?_eq_some_of_mem (distinct : (c.entries.map Prod.fst).Nodup) {name : String}
    {value : Value} (member : (name, value) ∈ c.entries) : c.get? name = some value :=
  (lookup_eq_some_iff_mem distinct).2 member

theorem Combination.get?_applyTo_of_not_mem (distinct : (c.entries.map Prod.fst).Nodup)
    {name : String} (other : name ∉ c.entries.map Prod.fst) (table : Table Value) :
    (c.applyTo table).get? name = table.get? name := by
  rw [get?_applyTo distinct, get?_eq_none_iff.2 other, Option.none_or]

theorem Combination.applyTo_congr (distinct : (c.entries.map Prod.fst).Nodup)
    {table other : Table Value}
    (same : ∀ name ∉ c.entries.map Prod.fst, table.get? name = other.get? name) :
    c.applyTo table = c.applyTo other := by
  refine Table.ext_get? fun name => ?_
  rw [get?_applyTo distinct, get?_applyTo distinct]
  cases found : c.get? name with
  | some value => rfl
  | none => exact same name (get?_eq_none_iff.1 found)

namespace Engine

variable {σ : Type} {dimensions : List Dimension} {e : Engine σ}

def valueAt? (dimensions : List Dimension) (cursor : List Nat) (i : Nat) : Option Value := do
  let d ← dimensions[i]?
  let index ← cursor[i]?
  d.values[index]?

def populateEach (e : Engine σ) (table : Table Value) :
    List (List (Call σ)) → Except IndexFault (Table Value × Engine σ)
  | [] => .ok (table, e)
  | calls :: stretches =>
    match e.performAll calls with
    | .error fault => .error fault
    | .ok (_, next) =>
      match next.populate table with
      | .error fault => .error fault
      | .ok populated => next.populateEach populated stretches

structure Projects (dimensions : List Dimension) (e : Engine σ) (c : Combination) : Prop where
  snapshot : e.snapshot = .ok c
  populate : ∀ table, e.populate table = .ok (c.applyTo table)
  values : ∀ i d, dimensions[i]? = some d → ∃ value, valueAt? dimensions e.cursor i = some value ∧
    c.get? d.name = some value ∧ c.toTable.get? d.name = some value ∧
    ∀ table, (c.applyTo table).get? d.name = some value
  unknown : ∀ name ∉ dimensions.map Dimension.name, c.get? name = none
  one_entry_each : c.toTable.names.Perm (dimensions.map Dimension.name)
  frame : ∀ name ∉ dimensions.map Dimension.name, ∀ table,
    (c.applyTo table).get? name = table.get? name
  independent : ∀ table other : Table Value,
    (∀ name ∉ dimensions.map Dimension.name, table.get? name = other.get? name) →
    c.applyTo table = c.applyTo other

theorem Selects.getElem?_entries {cursor : List Nat} (selects : Selects dimensions cursor c) (i : Nat) :
    c.entries[i]? =
      dimensions[i]?.bind fun d => (valueAt? dimensions cursor i).map (d.name, ·) := by
  have same := congrArg (·[i]?) selects
  simp only [List.getElem?_map, List.getElem?_zipWith] at same
  cases placed : dimensions[i]? with
  | none => simpa [placed] using same
  | some d =>
    cases read : cursor[i]? with
    | none => simpa [valueAt?, placed, read] using same
    | some index =>
      cases found : d.values[index]? with
      | none => simp [placed, read, found] at same
      | some value => simpa [valueAt?, placed, read, found] using same

theorem valueAt?_of_within {cursor : List Nat}
    (within : List.Forall₂ (fun index d => index < Dimension.length d) cursor dimensions)
    {i : Nat} {d : Dimension} (placed : dimensions[i]? = some d) :
    ∃ value, valueAt? dimensions cursor i = some value := by
  obtain ⟨inside, rfl⟩ := List.getElem?_eq_some_iff.1 placed
  have bound : i < cursor.length := by rwa [within.length_eq]
  have below : cursor[i] < dimensions[i].values.length := within.get bound inside
  exact ⟨dimensions[i].values[cursor[i]], by simp [valueAt?, inside, bound, below]⟩

theorem Sound.projects (sound : Sound dimensions e)
    (distinct : (dimensions.map Dimension.name).Nodup) :
    ∃ c, Projects dimensions e c := by
  obtain ⟨c, snapshot, selects⟩ := snapshot_selects sound
  have within := sound.indexes_within sound.within
  have names : c.entries.map Prod.fst = dimensions.map Dimension.name := by
    rw [selects.eq_selected, selected_names within]
  rw [← names] at distinct
  refine ⟨c, snapshot, fun table => ?_, ?_, ?_, ?_, ?_, ?_⟩
  · rw [populate, snapshot]
  · intro i d placed
    obtain ⟨value, found⟩ := valueAt?_of_within within placed
    have entry : c.entries[i]? = some (d.name, value) := by
      rw [selects.getElem?_entries, placed, Option.bind_some, found, Option.map_some]
    have got : c.get? d.name = some value :=
      Combination.get?_eq_some_of_mem distinct (List.mem_of_getElem? entry)
    refine ⟨value, found, got, ?_, fun table => ?_⟩
    · rw [Combination.get?_toTable distinct, got]
    · rw [Combination.get?_applyTo distinct, got, Option.some_or]
  · intro name other
    exact Combination.get?_eq_none_iff.2 (names ▸ other)
  · rw [← names]
    refine (List.perm_ext_iff_of_nodup c.toTable.nodup_names distinct).2 fun name => ?_
    rw [Table.mem_names, Combination.get?_toTable distinct, ← not_iff_not,
      ← Combination.get?_eq_none_iff, Option.eq_none_iff_forall_ne_some, not_exists]
  · intro name other table
    exact Combination.get?_applyTo_of_not_mem distinct (names ▸ other) table
  · intro table other same
    exact Combination.applyTo_congr distinct (names ▸ same)

theorem performAll_append {e next after : Engine σ} {calls later : List (Call σ)}
    {events more : List (Event σ)} (performed : e.performAll calls = .ok (events, next))
    (followed : next.performAll later = .ok (more, after)) :
    e.performAll (calls ++ later) = .ok (events ++ more, after) := by
  induction calls generalizing e events with
  | nil =>
    cases performed
    exact followed
  | cons call calls ih =>
    rw [performAll] at performed
    split at performed
    · cases performed
    next first between called =>
      split at performed
      · cases performed
      next rest last ended =>
        cases performed
        simp only [List.cons_append, performAll, called, ih ended, List.append_assoc]

theorem populateEach_eq (sound : Sound dimensions e)
    (distinct : (dimensions.map Dimension.name).Nodup) {stretches : List (List (Call σ))}
    (nonempty : stretches ≠ []) :
    ∃ events after c, e.performAll stretches.flatten = .ok (events, after) ∧
      Projects dimensions after c ∧
      ∀ table, e.populateEach table stretches = .ok (c.applyTo table, after) := by
  induction stretches generalizing e with
  | nil => exact absurd rfl nonempty
  | cons calls stretches ih =>
    obtain ⟨events, next, performed, soundNext, -⟩ := performAll_obey sound calls
    obtain ⟨first, projects⟩ := soundNext.projects distinct
    by_cases last : stretches = []
    · refine ⟨events, next, first, by simpa [last] using performed, projects, fun table => ?_⟩
      simp only [last, populateEach, performed, projects.populate]
    · obtain ⟨later, after, c, followed, projectsAfter, populated⟩ := ih soundNext last
      refine ⟨events ++ later, after, c, performAll_append performed followed, projectsAfter, ?_⟩
      intro table
      have overwritten : c.applyTo (first.applyTo table) = c.applyTo table :=
        projectsAfter.independent _ _ fun name other => projects.frame name other table
      simp only [populateEach, performed, projects.populate, populated, overwritten]

/-- After any calls the combination under the cursor, its table and every table it is written into agree,
nothing else in the table changes, and only the last of several combinations written is left in it. -/
theorem projections_agree (built : Engine.new dimensions = .ok e) (calls : List (Call σ)) :
    ∃ events after c, e.performAll calls = .ok (events, after) ∧ Projects dimensions after c ∧
      ∀ stretches : List (List (Call σ)), stretches ≠ [] → stretches.flatten = calls →
        ∀ table, e.populateEach table stretches = .ok (c.applyTo table, after) := by
  have sound := new_sound built
  obtain ⟨distinct, -⟩ := new_eq_ok_iff.1 built
  obtain ⟨events, after, performed, soundAfter, -⟩ := performAll_obey sound calls
  obtain ⟨c, projects⟩ := soundAfter.projects distinct
  refine ⟨events, after, c, performed, projects, ?_⟩
  rintro stretches nonempty rfl table
  obtain ⟨_, last, other, same, projectsLast, populated⟩ := populateEach_eq sound distinct nonempty
  rw [performed] at same
  cases same
  have snapshot := projectsLast.snapshot
  rw [projects.snapshot] at snapshot
  cases snapshot
  exact populated table

def stockTable : Table Value :=
  Table.ofList [("Size", .null), ("Shelf", .int 4)]

theorem shirt_projections_agree :
    (Engine.new shirts : Except Error (Engine Nat)) = .ok shirtEngine ∧
      ∃ (events : List (Event Nat)) (after : Engine Nat) (c : Combination),
        shirtEngine.performAll [.advance, .advance] = .ok (events, after) ∧
        Projects shirts after c ∧
        shirtEngine.populateEach stockTable [[.advance], [.advance]] =
          .ok (c.applyTo stockTable, after) := by
  obtain ⟨events, after, c, performed, projects, populated⟩ :=
    projections_agree new_shirts [.advance, (.advance : Call Nat)]
  exact ⟨new_shirts, events, after, c, performed, projects,
    populated [[.advance], [.advance]] (by simp) rfl stockTable⟩

example :
    ((shirtEngine : Engine Nat).populateEach stockTable [[.advance], [.advance]]).map
        (fun (table, _) => table.entries.map fun (name, value) => (name, value.display)) =
      .ok [("Color", "Red"), ("Shelf", "4"), ("Size", "Medium")] := by
  cbv

end Engine

end ParamGrid
