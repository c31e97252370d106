import ParamGrid.Proofs.Engine.Loop
import ParamGrid.Proofs.Engine.Session

set_option autoImplicit false

namespace ParamGrid.Engine

variable {σ : Type}

structure WellFormed (dimensions : List Dimension) (e : Engine σ) : Prop where
  dimensions_eq : e.dimensions = dimensions
  length_cursor : e.cursor.length = dimensions.length
  cursor_lt : ∀ (i : Nat) (d : Dimension) (index : Nat),
    dimensions[i]? = some d → e.cursor[i]? = some index → index < d.length
  one_slot_per_value : e.filters.map List.length = dimensions.map Dimension.length
  comparisons_within : ∀ slots ∈ e.filters, ∀ f, some f ∈ slots → f.Within dimensions.length
  pending : e.status = .pending → e.beforeStart = true ∧ ∀ index ∈ e.cursor, index = 0
  positioned : e.status = .positioned → e.committed = true ∧ e.beforeStart = false
  exhausted : e.status = .exhausted → e.beforeStart = false ∧ ∀ index ∈ e.cursor, index = 0

theorem Built.one_slot_per_value {dimensions : List Dimension} {e : Engine σ}
    (built : Built dimensions e) : e.filters.map List.length = dimensions.map Dimension.length := by
  have lengths : List.Forall₂ (fun (slots : List (Option Filter)) d => slots.length = d.length)
      e.filters dimensions :=
    ((mapM_eq_ok.1 built.compiled).imp fun _ _ => compileSlots_length).flip
  rwa [← List.forall₂_eq_eq_eq, List.forall₂_map_left_iff, List.forall₂_map_right_iff]

theorem Built.comparisons_within {dimensions : List Dimension} {e : Engine σ}
    (built : Built dimensions e) {slots : List (Option Filter)} (row : slots ∈ e.filters) {f : Filter}
    (slot : some f ∈ slots) : f.Within dimensions.length := by
  obtain ⟨d, -, compiled⟩ := mapM_mem built.compiled row
  obtain ⟨index, -, compiled⟩ := mapM_mem compiled slot
  simpa using Filter.compile_within compiled

theorem Sound.wellFormed {dimensions : List Dimension} {e : Engine σ} (sound : Sound dimensions e) :
    WellFormed dimensions e where
  dimensions_eq := sound.dimensions_eq
  length_cursor := (sound.indexes_within sound.within).length_eq
  cursor_lt := by
    intro i d index placed read
    obtain ⟨inside, rfl⟩ := List.getElem?_eq_some_iff.1 placed
    obtain ⟨bound, rfl⟩ := List.getElem?_eq_some_iff.1 read
    exact (sound.indexes_within sound.within).get bound inside
  one_slot_per_value := sound.one_slot_per_value
  comparisons_within := fun _ row _ slot => sound.comparisons_within row slot
  pending := by
    intro status
    obtain ⟨fresh, zeros, -⟩ := sound.pending status
    exact ⟨fresh, by simp [zeros, Odometer.zeros]⟩
  positioned := fun status => (sound.positioned status).symm
  exhausted := by
    intro status
    obtain ⟨started, zeros⟩ := sound.exhausted status
    exact ⟨started, by simp [zeros, Odometer.zeros]⟩

/-- From here no look-up fails: for the combination under the cursor, in a filter that is evaluated
on it, in a turn of the loop that moves the digits, or while iterating, which is nothing but calls to
the iterator. -/
structure InBounds (e : Engine σ) : Prop where
  snapshot : ∃ c, e.snapshot = .ok c
  verdict : ∃ b, e.verdict e.cursor = .ok b
  evaluated : ∀ slots ∈ e.filters, ∀ f, some f ∈ slots → ∃ b, f.eval e.cursor = .ok b
  advanced : ∃ m, e.advance = .ok m ∧
    (e.dimensions ≠ [] → e.isExhausted = false → Loops ⟨e, 0, []⟩ m)
  taken : ∀ n, ∃ cs last k events, e.take n = .ok (cs, last) ∧
    e.performAll (List.replicate k .next) = .ok (events, last)
  ran : ∃ r k events, e.run = .ok r ∧
    e.performAll (List.replicate k .next) = .ok (events, r.engine)

theorem take_performs {dimensions : List Dimension} {e : Engine σ} (sound : Sound dimensions e)
    (n : Nat) :
    ∃ cs last k events, e.take n = .ok (cs, last) ∧
      e.performAll (List.replicate k .next) = .ok (events, last) := by
  induction n generalizing e with
  | zero => exact ⟨[], e, 0, [], rfl, rfl⟩
  | succ n ih =>
    obtain ⟨m, advanced, advances⟩ := advance_advances sound
    cases moved : m.moved with
    | false =>
      refine ⟨[], m.engine, 1, [.moved m], ?_, ?_⟩
      · simp [take, advanced, moved]
      · simp [performAll, perform, advanced, moved]
    | true =>
      obtain ⟨c, snapshot, -⟩ := snapshot_selects advances.sound
      obtain ⟨cs, last, k, events, taken, performed⟩ := ih advances.sound
      refine ⟨c :: cs, last, k + 1, .moved m :: events, ?_, ?_⟩
      · simp [take, advanced, moved, snapshot, taken]
      · simp [List.replicate_succ, performAll, perform, advanced, moved, snapshot, performed]

-- A run is calls to the iterator, and its combinations are those that the calls reach.
theorem run_performs {dimensions : List Dimension} {e : Engine σ} (sound : Sound dimensions e) :
    ∃ r k events, e.run = .ok r ∧
      e.performAll (List.replicate k .next) = .ok (events, r.engine) ∧
      ((Event.moves events).filter Move.moved).mapM (fun m => m.engine.snapshot) =
        .ok r.combinations := by
  induction bound : e.remaining using Nat.strong_induction_on generalizing e with
  | _ n ih =>
    obtain ⟨m, advanced, advances⟩ := advance_advances sound
    cases moved : m.moved with
    | false =>
      refine ⟨⟨[], [], m.trials, m.engine⟩, 1, [.moved m], ?_, ?_, ?_⟩
      · rw [run_eq advanced, moved]
        rfl
      · simp [performAll, perform, advanced, moved]
      · simp only [Event.moves, List.filter_cons, moved]
        rfl
    | true =>
      obtain ⟨c, snapshot, -⟩ := snapshot_selects advances.sound
      have fewer : m.engine.remaining < n := bound ▸ advance_remaining advanced moved
      obtain ⟨r, k, events, ran, performed, reached⟩ := ih _ fewer advances.sound rfl
      refine ⟨{ r with
        cursors := m.engine.cursor :: r.cursors
        combinations := c :: r.combinations
        trials := m.trials ++ r.trials }, k + 1, .moved m :: events, ?_, ?_, ?_⟩
      · rw [run_eq advanced, moved, snapshot, ran]
        rfl
      · simp [List.replicate_succ, performAll, perform, advanced, moved, snapshot, performed]
      · rw [Event.moves, List.filter_cons_of_pos moved, List.mapM_cons, snapshot, reached]
        rfl

theorem Sound.inBounds {dimensions : List Dimension} {e : Engine σ} (sound : Sound dimensions e) :
    InBounds e where
  snapshot := by
    obtain ⟨c, snapshot, -⟩ := snapshot_selects sound
    exact ⟨c, snapshot⟩
  verdict := ⟨_, sound.verdict_eq sound.within⟩
  evaluated := by
    intro slots row f slot
    refine Filter.eval_within ?_
    rw [sound.wellFormed.length_cursor]
    exact sound.comparisons_within row slot
  advanced := by
    obtain ⟨m, advanced, -⟩ := advance_advances sound
    refine ⟨m, advanced, fun nonempty unfinished => ?_⟩
    rw [sound.dimensions_eq] at nonempty
    exact advance_loops sound nonempty unfinished advanced
  taken := take_performs sound
  ran := by
    obtain ⟨r, k, events, ran, performed, -⟩ := run_performs sound
    exact ⟨r, k, events, ran, performed⟩

theorem calls_stay_in_bounds {dimensions : List Dimension} {e : Engine σ}
    (built : Engine.new dimensions = .ok e) (calls : List (Call σ)) :
    ∃ events after, e.performAll calls = .ok (events, after) ∧ WellFormed dimensions after ∧
      InBounds after := by
  obtain ⟨events, after, performed, sound, -⟩ := performAll_obey (new_sound built) calls
  exact ⟨events, after, performed, sound.wellFormed, sound.inBounds⟩

theorem shirt_calls_stay_in_bounds :
    (Engine.new shirts : Except Error (Engine Nat)) = .ok shirtEngine ∧
      ∃ events after, shirtEngine.performAll shirtCalls = .ok (events, after) ∧
        WellFormed shirts after ∧ InBounds after :=
  ⟨new_shirts, calls_stay_in_bounds new_shirts shirtCalls⟩

end ParamGrid.Engine
