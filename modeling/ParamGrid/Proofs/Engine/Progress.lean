import ParamGrid.Proofs.Engine.Enumeration
import ParamGrid.Proofs.Engine.Loop
import ParamGrid.Proofs.Engine.Session

set_option autoImplicit false

namespace ParamGrid.Engine

variable {σ : Type} {dimensions : List Dimension} {e : Engine σ} {m : Move σ}

def total (dimensions : List Dimension) : Nat :=
  (dimensions.map Dimension.length).prod

-- The place of the first candidate that is left: behind the cursor, once the engine is positioned on
-- a combination.
def nextPlace (dimensions : List Dimension) (e : Engine σ) : Nat :=
  match e.status with
  | .pending => 0
  | .positioned => place dimensions e.cursor + 1
  | .exhausted => total dimensions

/-- The call ends. It examines candidates of consecutive places, refuses all but the last, and either
stops on that one or goes on through all that are left. -/
structure Progresses (dimensions : List Dimension) (e : Engine σ) (m : Move σ) : Prop where
  ends : e.isExhausted = false → Loops ⟨e, 0, []⟩ m
  reviews : Reviews dimensions e.hook m.trials m.engine.hook
  within : ∀ t ∈ m.trials, Odometer.Within (dimensions.map Dimension.length) t.cursor
  places : m.trials.map (fun t => place dimensions t.cursor) =
    List.range' (e.nextPlace dimensions) m.trials.length
  bounded : e.nextPlace dimensions + m.trials.length ≤ total dimensions
  next : m.engine.nextPlace dimensions = e.nextPlace dimensions + m.trials.length
  reached : m.moved = true → ∃ refused last, m.trials = refused ++ [last] ∧
    (∀ t ∈ refused, t.accepted = false) ∧ last.accepted = true ∧ m.engine.cursor = last.cursor ∧
    place dimensions m.engine.cursor = e.nextPlace dimensions + refused.length
  finished : m.moved = false → (∀ t ∈ m.trials, t.accepted = false) ∧
    e.nextPlace dimensions + m.trials.length = total dimensions
  idle : e.isExhausted = true → m.trials = []

theorem Sound.todo_eq (sound : Sound dimensions e) :
    e.todo = (Odometer.readings (dimensions.map Dimension.length)).drop (e.nextPlace dimensions) := by
  rw [todo, nextPlace, place_eq_rank, sound.sizes_eq]
  cases status : e.status with
  | pending => simp [isExhausted, status, (sound.pending status).1]
  | positioned => simp [isExhausted, status, (sound.positioned status).1]
  | exhausted => simp [isExhausted, status, total, ← Odometer.length_readings]

theorem Sound.nextPlace_le (sound : Sound dimensions e) :
    e.nextPlace dimensions ≤ total dimensions := by
  rw [nextPlace]
  split
  · exact Nat.zero_le _
  · have within := sound.within
    rw [sound.sizes_eq] at within
    obtain ⟨bound, -⟩ := List.getElem?_eq_some_iff.1 (Odometer.getElem?_rank within)
    rwa [Odometer.length_readings, ← place_eq_rank] at bound
  · exact Nat.le_refl _

theorem Sound.length_todo (sound : Sound dimensions e) :
    e.todo.length + e.nextPlace dimensions = total dimensions := by
  have bound := sound.nextPlace_le
  rw [sound.todo_eq, List.length_drop, Odometer.length_readings]
  unfold total at bound ⊢
  omega

theorem Sound.map_place_todo (sound : Sound dimensions e) :
    e.todo.map (place dimensions) = List.range' (e.nextPlace dimensions) e.todo.length := by
  have ranks : place dimensions = Odometer.rank (dimensions.map Dimension.length) :=
    funext (place_eq_rank dimensions)
  rw [sound.todo_eq, List.map_drop, ranks, Odometer.map_rank_readings, List.range_eq_range',
    List.drop_range', List.length_drop, Odometer.length_readings]
  simp

theorem Advances.next_eq (advances : Advances dimensions e m) (sound : Sound dimensions e) :
    m.engine.nextPlace dimensions = e.nextPlace dimensions + m.trials.length := by
  have split := congrArg List.length advances.tried
  rw [List.length_append, List.length_map] at split
  have before := sound.length_todo
  have after := advances.sound.length_todo
  omega

theorem Advances.places_eq (advances : Advances dimensions e m) (sound : Sound dimensions e) :
    m.trials.map (fun t => place dimensions t.cursor) =
      List.range' (e.nextPlace dimensions) m.trials.length := by
  have all := sound.map_place_todo
  -- What the call has tried is the front of what was left before it.
  rw [← advances.tried, List.map_append, List.length_append, List.length_map,
    ← List.range'_append_1, List.map_map] at all
  exact List.append_inj_left all (by simp)

theorem Advances.progresses (advances : Advances dimensions e m) (advanced : e.advance = .ok m)
    (sound : Sound dimensions e) (nonempty : dimensions ≠ []) : Progresses dimensions e m where
  ends := fun unfinished => advance_loops sound nonempty unfinished advanced
  reviews := advances.reviews
  within := by
    intro t member
    have listed : t.cursor ∈ e.todo := by
      rw [← advances.tried]
      exact List.mem_append_left _ (List.mem_map_of_mem member)
    rw [sound.todo_eq] at listed
    exact Odometer.mem_readings.1 (List.mem_of_mem_drop listed)
  places := advances.places_eq sound
  bounded := by
    rw [← advances.next_eq sound]
    exact advances.sound.nextPlace_le
  next := advances.next_eq sound
  reached := by
    intro moved
    have concludes := advances.concludes
    rw [Move.Concludes, if_pos moved] at concludes
    obtain ⟨refused, last, all, none, accepted, cursor⟩ := concludes
    refine ⟨refused, last, all, none, accepted, cursor, ?_⟩
    have places := advances.places_eq sound
    rw [all, List.map_append, List.length_append, List.length_singleton, List.range'_1_concat] at places
    rw [cursor]
    exact List.singleton_inj.1 (List.append_inj_right places (by simp))
  finished := by
    intro still
    have concludes := advances.concludes
    rw [Move.Concludes, still, if_neg (by simp)] at concludes
    have ended : m.engine.status = .exhausted := by
      simpa [isExhausted, still] using advances.ended nonempty
    refine ⟨concludes, ?_⟩
    rw [← advances.next_eq sound, nextPlace, ended]
  idle := by
    intro finished
    rw [advance_idle (.inr finished)] at advanced
    cases advanced
    rfl

theorem advance_makes_progress (built : Engine.new dimensions = .ok e) (nonempty : dimensions ≠ [])
    (calls : List (Call σ)) :
    ∃ events after move, e.performAll calls = .ok (events, after) ∧ after.advance = .ok move ∧
      Progresses dimensions after move := by
  obtain ⟨events, after, performed, sound, -⟩ := performAll_obey (new_sound built) calls
  obtain ⟨move, advanced, advances⟩ := advance_advances sound
  exact ⟨events, after, move, performed, advanced, advances.progresses advanced sound nonempty⟩

def refusing : Hook Nat where
  state := 0
  review := fun seen _ _ => (false, seen + 1)

theorem shirts_make_progress :
    (Engine.new shirts : Except Error (Engine Nat)) = .ok shirtEngine ∧ shirts ≠ [] ∧
      ∃ (events : List (Event Nat)) (after : Engine Nat) (move : Move Nat),
        shirtEngine.performAll [.advance, .setHook refusing] = .ok (events, after) ∧
        after.advance = .ok move ∧ Progresses shirts after move := by
  have nonempty : shirts ≠ [] := List.cons_ne_nil _ _
  exact ⟨new_shirts, nonempty,
    advance_makes_progress new_shirts nonempty [.advance, .setHook refusing]⟩

example :
    ((shirtEngine : Engine Nat).performAll [.advance, .setHook refusing, .advance]).map
        (fun (events, after) =>
          ((Event.moves events).map fun m => m.trials.length, after.hook.map Hook.state)) =
      .ok ([1, 5], some 5) := by
  cbv

end ParamGrid.Engine
