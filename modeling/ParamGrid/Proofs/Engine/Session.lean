import ParamGrid.Proofs.Engine.Invariant

set_option autoImplicit false

namespace ParamGrid.Engine

variable {σ : Type}

/-- A call on an engine. Hooks with memories of several types are hooks over their sum. -/
inductive Call (σ : Type) where
  | advance
  | next
  | setHook (hook : Hook σ)
  | clearHook
  | snapshot
  | populate (table : Table Value)
  | describe

inductive Event (σ : Type) where
  | moved (move : Move σ)
  | hooked (hook : Option (Hook σ))

def perform (e : Engine σ) : Call σ → Except IndexFault (List (Event σ) × Engine σ)
  | .advance =>
    match e.advance with
    | .error fault => .error fault
    | .ok move => .ok ([.moved move], move.engine)
  | .next =>
    match e.advance with
    | .error fault => .error fault
    | .ok move =>
      if move.moved then
        match move.engine.snapshot with
        | .error fault => .error fault
        | .ok _ => .ok ([.moved move], move.engine)
      else .ok ([.moved move], move.engine)
  | .setHook hook => .ok ([.hooked (some hook)], e.setHook hook)
  | .clearHook => .ok ([.hooked none], e.clearHook)
  | .snapshot =>
    match e.snapshot with
    | .error fault => .error fault
    | .ok _ => .ok ([], e)
  | .populate table =>
    match e.populate table with
    | .error fault => .error fault
    | .ok _ => .ok ([], e)
  | .describe =>
    match e.describe with
    | .error fault => .error fault
    | .ok _ => .ok ([], e)

def performAll (e : Engine σ) : List (Call σ) → Except IndexFault (List (Event σ) × Engine σ)
  | [] => .ok ([], e)
  | call :: calls =>
    match e.perform call with
    | .error fault => .error fault
    | .ok (events, next) =>
      match next.performAll calls with
      | .error fault => .error fault
      | .ok (later, after) => .ok (events ++ later, after)

def Event.moves : List (Event σ) → List (Move σ)
  | [] => []
  | .moved move :: events => move :: moves events
  | .hooked _ :: events => moves events

def Event.trials (events : List (Event σ)) : List Trial :=
  (moves events).flatMap Move.trials

-- Every move asks the hook that is installed at its time, as its last answer has left it, about
-- each candidate it tries, and goes by the answers; with no hook it goes by the filters.
def Event.Obey (dimensions : List Dimension) : Option (Hook σ) → List (Event σ) → Prop
  | _, [] => True
  | hook, .moved move :: events =>
    Reviews dimensions hook move.trials move.engine.hook ∧ move.Concludes ∧
      Obey dimensions move.engine.hook events
  | _, .hooked hook :: events => Obey dimensions hook events

inductive Performs (dimensions : List Dimension) (e : Engine σ) :
    List (Event σ) → Engine σ → Prop where
  | looked : Performs dimensions e [] e
  | moved (m : Move σ) : Advances dimensions e m → Performs dimensions e [.moved m] m.engine
  | hooked (hook : Option (Hook σ)) : Performs dimensions e [.hooked hook] { e with hook := hook }

theorem perform_performs {dimensions : List Dimension} {e : Engine σ} (sound : Sound dimensions e)
    (call : Call σ) :
    ∃ events next, e.perform call = .ok (events, next) ∧ Performs dimensions e events next := by
  obtain ⟨c, combination, -⟩ := snapshot_selects sound
  obtain ⟨m, advanced, advances⟩ := advance_advances sound
  cases call with
  | advance => exact ⟨_, _, by rw [perform, advanced], .moved m advances⟩
  | next =>
    obtain ⟨reached, snapshot, -⟩ := snapshot_selects advances.sound
    refine ⟨_, _, ?_, .moved m advances⟩
    rw [perform, advanced]
    dsimp only
    split
    · rw [snapshot]
    · rfl
  | setHook hook => exact ⟨_, _, rfl, .hooked (some hook)⟩
  | clearHook => exact ⟨_, _, rfl, .hooked none⟩
  | snapshot => exact ⟨_, _, by rw [perform, combination], .looked⟩
  | populate table => exact ⟨_, _, by simp only [perform, populate, combination], .looked⟩
  | describe =>
    refine ⟨_, _, ?_, .looked⟩
    cases committed : e.committed <;> simp [perform, describe, committed, combination]

theorem Performs.sound {dimensions : List Dimension} {e next : Engine σ} {events : List (Event σ)}
    (performs : Performs dimensions e events next) (sound : Sound dimensions e) :
    Sound dimensions next := by
  cases performs with
  | looked => exact sound
  | moved m advances => exact advances.sound
  | hooked hook =>
    exact ⟨⟨sound.dimensions_eq, sound.compiled⟩, sound.within, sound.pending, sound.positioned,
      sound.exhausted⟩

-- Whatever the calls are, the candidates tried in them and those left to try are the ones that were
-- left before.
theorem performAll_obey {dimensions : List Dimension} {e : Engine σ} (sound : Sound dimensions e)
    (calls : List (Call σ)) :
    ∃ events after, e.performAll calls = .ok (events, after) ∧ Sound dimensions after ∧
      (Event.trials events).map Trial.cursor ++ after.todo = e.todo ∧
      Event.Obey dimensions e.hook events := by
  induction calls generalizing e with
  | nil => exact ⟨[], e, rfl, sound, rfl, trivial⟩
  | cons call calls ih =>
    obtain ⟨events, next, performed, performs⟩ := perform_performs sound call
    obtain ⟨later, after, followed, soundAfter, tried, obey⟩ := ih (performs.sound sound)
    refine ⟨events ++ later, after, by simp only [performAll, performed, followed], soundAfter, ?_⟩
    cases performs with
    | looked => exact ⟨tried, obey⟩
    | moved m advances =>
      refine ⟨?_, advances.reviews, advances.concludes, obey⟩
      rw [← advances.tried, ← tried]
      simp [Event.trials, Event.moves]
    | hooked hook => exact ⟨tried, obey⟩

theorem Event.Obey.reached {dimensions : List Dimension} {hook : Option (Hook σ)}
    {events : List (Event σ)} (obey : Obey dimensions hook events) :
    ((moves events).filter Move.moved).map (fun m => m.engine.cursor) =
      ((trials events).filter Trial.accepted).map Trial.cursor := by
  induction events generalizing hook with
  | nil => rfl
  | cons event events ih =>
    cases event with
    | moved move =>
      obtain ⟨-, concludes, obey⟩ := obey
      have same := ih obey
      simp only [trials] at same
      simp only [trials, moves, List.flatMap_cons, List.filter_append, List.map_append,
        concludes.accepted_cursors, ← same]
      cases moved : move.moved <;> simp [moved]
    | hooked hook => exact ih obey

/-- Over any calls the candidates are tried in the order of the odometer, and all of them when the
engine is exhausted; the hook of the time decides on each, or else the filters; and the calls that
reach something reach the accepted ones. -/
theorem candidates_reviewed_once {dimensions : List Dimension} {e : Engine σ}
    (built : Engine.new dimensions = .ok e) (calls : List (Call σ)) :
    ∃ events after, e.performAll calls = .ok (events, after) ∧
      (Event.trials events).map Trial.cursor <+:
        Odometer.readings (dimensions.map Dimension.length) ∧
      (after.isExhausted = true →
        (Event.trials events).map Trial.cursor =
          Odometer.readings (dimensions.map Dimension.length)) ∧
      Event.Obey dimensions none events ∧
      ((Event.moves events).filter Move.moved).map (fun m => m.engine.cursor) =
        ((Event.trials events).filter Trial.accepted).map Trial.cursor := by
  have sound := new_sound built
  obtain ⟨fresh, unhooked, -⟩ := new_fresh built
  obtain ⟨events, after, performed, -, tried, obey⟩ := performAll_obey sound calls
  rw [fresh] at tried
  rw [unhooked] at obey
  refine ⟨events, after, performed, ⟨after.todo, tried⟩, fun ended => ?_, obey, obey.reached⟩
  rwa [todo, if_pos ended, List.append_nil] at tried

def contrary : Hook Nat where
  state := 0
  review := fun seen _ verdict => (!verdict, seen + 1)

def shirtCalls : List (Call Nat) :=
  [.next, .setHook contrary, .describe, .advance, .advance, .populate .empty, .clearHook, .advance]

theorem shirts_reviewed_once :
    (Engine.new shirts : Except Error (Engine Nat)) = .ok shirtEngine ∧
      ∃ events after, shirtEngine.performAll shirtCalls = .ok (events, after) ∧
        (Event.trials events).map Trial.cursor = Odometer.readings [3, 2] ∧
        Event.Obey shirts none events ∧
        ((Event.trials events).filter Trial.accepted).map Trial.cursor = [[0, 0], [1, 1], [2, 1]] ∧
        ((Event.moves events).filter Move.moved).map (fun m => m.engine.cursor) =
          [[0, 0], [1, 1], [2, 1]] := by
  obtain ⟨events, after, performed, -, tried, obey, reached⟩ :=
    candidates_reviewed_once new_shirts shirtCalls
  have computed : ((shirtEngine : Engine Nat).performAll shirtCalls).map
      (fun result => (((Event.moves result.1).filter Move.moved).map fun m => m.engine.cursor,
        result.2.isExhausted)) = .ok ([[0, 0], [1, 1], [2, 1]], true) := by
    cbv
  rw [performed] at computed
  obtain ⟨cursors, ended⟩ := Prod.mk.inj (Except.ok.inj computed)
  exact ⟨new_shirts, events, after, performed, tried ended, obey, reached.symm.trans cursors, cursors⟩

end ParamGrid.Engine
