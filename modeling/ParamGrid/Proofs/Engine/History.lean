import ParamGrid.Proofs.Engine.Construction
import ParamGrid.Proofs.Engine.Session

set_option autoImplicit false

namespace ParamGrid

theorem Combination.display_ne_none {c : Combination} (nonempty : c.entries ≠ []) :
    c.display ≠ "[none]" := by
  obtain ⟨entry, rest, split⟩ := List.exists_cons_of_ne_nil nonempty
  have newline : '\n' ∈ c.display.toList := by
    rw [Combination.display, String.toList_join, List.mem_flatMap]
    refine ⟨Combination.entryLine entry, by simp [split], ?_⟩
    simp [Combination.entryLine]
  intro same
  simp [same] at newline

namespace Engine

variable {σ : Type}

def Call.installs : Call σ → Option (Hook σ) → Option (Hook σ)
  | .setHook hook, _ => some hook
  | .clearHook, _ => none
  | .advance, hook | .next, hook | .snapshot, hook | .populate _, hook | .describe, hook => hook

def Call.installed (hook : Option (Hook σ)) (calls : List (Call σ)) : Option (Hook σ) :=
  calls.foldl (fun hook call => call.installs hook) hook

def Still (e : Engine σ) : Prop :=
  ∀ calls : List (Call σ), ∃ events,
    e.performAll calls = .ok (events, { e with hook := Call.installed e.hook calls }) ∧
      ∀ m ∈ Event.moves events, m.moved = false ∧ m.trials = []

structure Remembers (dimensions : List Dimension) (past : List (Move σ)) (e : Engine σ) : Prop where
  exhausted : dimensions ≠ [] → (e.isExhausted = true ↔ ∃ m ∈ past, m.moved = false)
  committed : e.committed = true ↔ ∃ m ∈ past, m.moved = true

theorem Event.moves_append (events later : List (Event σ)) :
    moves (events ++ later) = moves events ++ moves later := by
  induction events with
  | nil => rfl
  | cons event events ih => cases event <;> simp [moves, ih]

theorem perform_cases {e next : Engine σ} {call : Call σ} {events : List (Event σ)}
    (performed : e.perform call = .ok (events, next)) :
    (∃ m, e.advance = .ok m ∧ events = [.moved m] ∧ next = m.engine ∧
      ∀ hook, call.installs hook = hook) ∨
    (Event.moves events = [] ∧ next = { e with hook := call.installs e.hook }) := by
  cases call with
  | advance =>
    rw [perform] at performed
    split at performed
    · cases performed
    next reached advanced =>
      cases performed
      exact .inl ⟨reached, advanced, rfl, rfl, fun _ => rfl⟩
  | next =>
    rw [perform] at performed
    split at performed
    · cases performed
    next reached advanced =>
      have ended : events = [.moved reached] ∧ next = reached.engine := by
        split at performed
        · split at performed <;> cases performed
          exact ⟨rfl, rfl⟩
        · cases performed
          exact ⟨rfl, rfl⟩
      exact .inl ⟨reached, advanced, ended.1, ended.2, fun _ => rfl⟩
  | setHook hook =>
    cases performed
    exact .inr ⟨rfl, rfl⟩
  | clearHook =>
    cases performed
    exact .inr ⟨rfl, rfl⟩
  | snapshot | populate | describe =>
    rw [perform] at performed
    split at performed <;> cases performed
    exact .inr ⟨rfl, rfl⟩

theorem search_committed {e : Engine σ} {cursor : List Nat} {done : List Trial} {m : Move σ}
    (found : e.search cursor done = .ok m) : m.engine.committed = (e.committed || m.moved) := by
  fun_induction search e cursor done generalizing m with
  | case1 => cases found
  | case2 =>
    cases found
    simp [accept]
  | case3 _ _ _ _ _ _ reached =>
    cases found
    simp [exhaust, reached]
  | case4 =>
    rename_i ih
    exact ih found

theorem advance_committed {e : Engine σ} {m : Move σ} (advanced : e.advance = .ok m) :
    m.engine.committed = (e.committed || m.moved) := by
  unfold advance at advanced
  split at advanced
  · cases advanced
    simp
  · split at advanced
    · exact search_committed advanced
    · split at advanced
      · cases advanced
        simp [exhaust]
      · exact search_committed advanced

theorem perform_idle {e next : Engine σ} {call : Call σ} {events : List (Event σ)}
    (idle : e.isEmpty = true ∨ e.isExhausted = true)
    (performed : e.perform call = .ok (events, next)) :
    next = { e with hook := call.installs e.hook } ∧
      ∀ m ∈ Event.moves events, m.moved = false ∧ m.trials = [] := by
  rcases perform_cases performed with ⟨m, advanced, rfl, rfl, same⟩ | ⟨none, rfl⟩
  · rw [advance_idle idle] at advanced
    cases advanced
    rw [same]
    exact ⟨rfl, List.forall_mem_singleton.2 ⟨rfl, rfl⟩⟩
  · rw [none]
    exact ⟨rfl, nofun⟩

theorem still_of_idle {dimensions : List Dimension} {e : Engine σ} (sound : Sound dimensions e)
    (idle : e.isEmpty = true ∨ e.isExhausted = true) : e.Still := by
  intro calls
  induction calls generalizing e with
  | nil => exact ⟨[], rfl, nofun⟩
  | cons call calls ih =>
    obtain ⟨events, next, performed, performs⟩ := perform_performs sound call
    obtain ⟨rfl, first⟩ := perform_idle idle performed
    -- The hook has no part in being idle, so the engine behind the call is idle as well.
    obtain ⟨later, followed, rest⟩ := ih (performs.sound sound) idle
    refine ⟨events ++ later, by simp only [performAll, performed, followed]; rfl, ?_⟩
    rw [Event.moves_append]
    exact List.forall_mem_append.2 ⟨first, rest⟩

theorem Remembers.advance {dimensions : List Dimension} {past : List (Move σ)} {e : Engine σ}
    {m : Move σ} (remembers : Remembers dimensions past e) (advances : Advances dimensions e m)
    (advanced : e.advance = .ok m) : Remembers dimensions (past ++ [m]) m.engine where
  exhausted := by
    intro nonempty
    rw [advances.ended nonempty]
    cases moved : m.moved with
    | false => simp [moved]
    | true =>
      -- An engine that was exhausted before could not have moved.
      have unfinished : ¬ e.isExhausted = true := by
        intro finished
        rw [advance_idle (.inr finished)] at advanced
        cases advanced
        cases moved
      rw [remembers.exhausted nonempty] at unfinished
      simpa [moved] using unfinished
  committed := by
    rw [advance_committed advanced, Bool.or_eq_true, remembers.committed]
    simp [or_and_right, exists_or]

theorem Remembers.perform {dimensions : List Dimension} {past : List (Move σ)} {e next : Engine σ}
    {call : Call σ} {events : List (Event σ)} (remembers : Remembers dimensions past e)
    (sound : Sound dimensions e) (performed : e.perform call = .ok (events, next)) :
    Remembers dimensions (past ++ Event.moves events) next := by
  rcases perform_cases performed with ⟨m, advanced, rfl, rfl, -⟩ | ⟨none, rfl⟩
  · obtain ⟨_, same, advances⟩ := advance_advances sound
    rw [advanced] at same
    cases same
    exact remembers.advance advances advanced
  · rw [none, List.append_nil]
    exact ⟨remembers.exhausted, remembers.committed⟩

theorem Remembers.performAll {dimensions : List Dimension} {past : List (Move σ)}
    {e after : Engine σ} {events : List (Event σ)} {calls : List (Call σ)}
    (remembers : Remembers dimensions past e) (sound : Sound dimensions e)
    (performed : e.performAll calls = .ok (events, after)) :
    Remembers dimensions (past ++ Event.moves events) after := by
  induction calls generalizing e past events with
  | nil =>
    cases performed
    simpa [Event.moves] using remembers
  | cons call calls ih =>
    obtain ⟨first, next, called, performs⟩ := perform_performs sound call
    simp only [Engine.performAll, called] at performed
    split at performed
    · cases performed
    next later last followed =>
      cases performed
      rw [Event.moves_append, ← List.append_assoc]
      exact ih (remembers.perform sound called) (performs.sound sound) followed

theorem new_remembers {dimensions : List Dimension} {e : Engine σ}
    (built : Engine.new dimensions = .ok e) : Remembers dimensions [] e := by
  obtain ⟨-, filters, -, rfl⟩ := new_eq_ok_iff.1 built
  exact ⟨fun _ => by simp [isExhausted], by simp⟩

theorem Selects.entries_ne_nil {dimensions : List Dimension} {cursor : List Nat} {c : Combination}
    (selects : Selects dimensions cursor c) (nonempty : dimensions ≠ [])
    (long : cursor.length = dimensions.length) : c.entries ≠ [] := by
  have width := congrArg List.length selects
  rw [List.length_map, List.length_zipWith, long, Nat.min_self] at width
  rw [← List.length_pos_iff, width, List.length_pos_iff]
  exact nonempty

-- A combination of some dimensions is shown in lines, and `[none]` is not a line.
theorem describe_eq_none_iff {dimensions : List Dimension} {e : Engine σ}
    (sound : Sound dimensions e) (nonempty : e.committed = true → dimensions ≠ []) :
    e.describe = .ok "[none]" ↔ e.committed = false := by
  cases committed : e.committed with
  | false => simp [describe, committed]
  | true =>
    obtain ⟨c, snapshot, selects⟩ := snapshot_selects sound
    have shown := Combination.display_ne_none <|
      selects.entries_ne_nil (nonempty committed) (sound.indexes_within sound.within).length_eq
    simp [describe, committed, snapshot, shown]

/-- Over any calls, an engine is exhausted as soon as a move has found nothing, and nothing changes
that; and it describes the combination of its snapshot as soon as a move has reached one. -/
theorem exhaustion_is_permanent {dimensions : List Dimension} {e : Engine σ}
    (built : Engine.new dimensions = .ok e) (calls : List (Call σ)) :
    ∃ events after, e.performAll calls = .ok (events, after) ∧
      (dimensions = [] → e.Still) ∧
      (dimensions ≠ [] →
        (after.isExhausted = true ↔ ∃ m ∈ Event.moves events, m.moved = false)) ∧
      (after.isExhausted = true →
        after.Still ∧ after.cursor = List.replicate dimensions.length 0) ∧
      (after.describe = .ok "[none]" ↔ ∀ m ∈ Event.moves events, m.moved = false) ∧
      ((∃ m ∈ Event.moves events, m.moved = true) →
        ∃ c, after.snapshot = .ok c ∧ after.describe = .ok c.display) := by
  have start := new_sound built
  obtain ⟨events, after, performed, sound, -⟩ := performAll_obey start calls
  have remembers := (new_remembers built).performAll start performed
  rw [List.nil_append] at remembers
  have motionless (empty : dimensions = []) : e.Still :=
    still_of_idle start (.inl (by simp [isEmpty, start.dimensions_eq, empty]))
  have unmoved : (∀ m ∈ Event.moves events, m.moved = false) ↔ after.committed = false := by
    rw [← Bool.not_eq_true, remembers.committed]
    simp
  have nonempty (committed : after.committed = true) : dimensions ≠ [] := by
    intro empty
    obtain ⟨_, same, still⟩ := motionless empty calls
    rw [performed] at same
    cases same
    have uncommitted := unmoved.1 fun m member => (still m member).1
    rw [committed] at uncommitted
    cases uncommitted
  refine ⟨events, after, performed, motionless, remembers.exhausted, ?_, ?_, ?_⟩
  · intro ended
    refine ⟨still_of_idle sound (.inr ended), ?_⟩
    have status : after.status = .exhausted := by simpa [isExhausted] using ended
    rw [(sound.exhausted status).2, sizes, sound.dimensions_eq]
    simp [Odometer.zeros, Function.comp_def, List.map_const']
  · rw [describe_eq_none_iff sound nonempty, unmoved]
  · intro moved
    obtain ⟨c, snapshot, -⟩ := snapshot_selects sound
    refine ⟨c, snapshot, ?_⟩
    simp only [describe, remembers.committed.2 moved, snapshot, if_true]

theorem shirts_stay_exhausted :
    (Engine.new shirts : Except Error (Engine Nat)) = .ok shirtEngine ∧ shirts ≠ [] ∧
      ∃ (events : List (Event Nat)) (after : Engine Nat),
        shirtEngine.performAll (List.replicate 5 .advance) = .ok (events, after) ∧
        (∃ m ∈ Event.moves events, m.moved = false) ∧ after.isExhausted = true ∧ after.Still ∧
        after.cursor = [0, 0] := by
  obtain ⟨events, after, performed, -, exhausted, still, -⟩ :=
    exhaustion_is_permanent new_shirts (List.replicate 5 (.advance : Call Nat))
  have computed : ((shirtEngine : Engine Nat).performAll (List.replicate 5 .advance)).map
      (fun result => result.2.isExhausted) = .ok true := by
    cbv
  rw [performed] at computed
  have ended : after.isExhausted = true := Except.ok.inj computed
  have nonempty : shirts ≠ [] := List.cons_ne_nil _ _
  exact ⟨new_shirts, nonempty, events, after, performed, (exhausted nonempty).1 ended, ended,
    still ended⟩

example :
    ((shirtEngine : Engine Nat).performAll
        (List.replicate 5 .advance ++ [.setHook contrary, .advance, .next, .describe])).map
        (fun (events, after) =>
          ((Event.moves events).map Move.moved, after.hook.map Hook.state)) =
      .ok ([true, true, true, true, false, false, false], some 0) := by
  cbv

end Engine

end ParamGrid
