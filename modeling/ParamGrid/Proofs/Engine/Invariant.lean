import Mathlib
import ParamGrid.Proofs.Engine.Selection

set_option autoImplicit false

namespace ParamGrid.Engine

variable {σ : Type}

structure Built (dimensions : List Dimension) (e : Engine σ) : Prop where
  dimensions_eq : e.dimensions = dimensions
  compiled : dimensions.mapM (compileSlots (dimensions.map Dimension.name)) = .ok e.filters

structure Sound (dimensions : List Dimension) (e : Engine σ) : Prop
    extends Built dimensions e where
  within : Odometer.Within e.sizes e.cursor
  pending : e.status = .pending →
    e.beforeStart = true ∧ e.cursor = Odometer.zeros e.sizes ∧ e.committed = false
  positioned : e.status = .positioned → e.beforeStart = false ∧ e.committed = true
  exhausted : e.status = .exhausted → e.beforeStart = false ∧ e.cursor = Odometer.zeros e.sizes

def todo (e : Engine σ) : List (List Nat) :=
  if e.isExhausted then []
  else if e.beforeStart then Odometer.readings e.sizes
  else (Odometer.readings e.sizes).drop (Odometer.rank e.sizes e.cursor + 1)

inductive Tried (dimensions : List Dimension) : Option (Hook σ) → Trial → Option (Hook σ) → Prop where
  | unhooked (cursor : List Nat) :
      Tried dimensions none ⟨cursor, admits dimensions cursor, none⟩ none
  | hooked (hook : Hook σ) {cursor : List Nat} {c : Combination} :
      Selects dimensions cursor c →
      Tried dimensions (some hook)
        ⟨cursor, admits dimensions cursor,
          some (hook.review hook.state c (admits dimensions cursor)).1⟩
        (some { hook with state := (hook.review hook.state c (admits dimensions cursor)).2 })

inductive Reviews (dimensions : List Dimension) :
    Option (Hook σ) → List Trial → Option (Hook σ) → Prop where
  | nil (hook : Option (Hook σ)) : Reviews dimensions hook [] hook
  | cons {before between after : Option (Hook σ)} {trial : Trial} {trials : List Trial} :
      Tried dimensions before trial between → Reviews dimensions between trials after →
      Reviews dimensions before (trial :: trials) after

def Move.Concludes (m : Move σ) : Prop :=
  if m.moved then
    ∃ refused last, m.trials = refused ++ [last] ∧ (∀ t ∈ refused, t.accepted = false) ∧
      last.accepted = true ∧ m.engine.cursor = last.cursor
  else ∀ t ∈ m.trials, t.accepted = false

structure Advances (dimensions : List Dimension) (e : Engine σ) (m : Move σ) : Prop where
  sound : Sound dimensions m.engine
  tried : m.trials.map Trial.cursor ++ m.engine.todo = e.todo
  reviews : Reviews dimensions e.hook m.trials m.engine.hook
  concludes : m.Concludes
  ended : dimensions ≠ [] → m.engine.isExhausted = !m.moved

theorem Built.sizes_eq {dimensions : List Dimension} {e : Engine σ} (built : Built dimensions e) :
    e.sizes = dimensions.map Dimension.length := by
  rw [sizes, built.dimensions_eq]

theorem Built.indexes_within {dimensions : List Dimension} {e : Engine σ} {cursor : List Nat}
    (built : Built dimensions e) (within : Odometer.Within e.sizes cursor) :
    List.Forall₂ (fun index d => index < Dimension.length d) cursor dimensions := by
  rwa [built.sizes_eq, Odometer.Within, List.forall₂_map_right_iff] at within

theorem Built.verdict_eq {dimensions : List Dimension} {e : Engine σ} {cursor : List Nat}
    (built : Built dimensions e) (within : Odometer.Within e.sizes cursor) :
    e.verdict cursor = .ok (admits dimensions cursor) := by
  have indexes := built.indexes_within within
  refine filtersAccept_eq (mapM_eq_ok.1 built.compiled) indexes ?_
  simpa using indexes.length_eq.symm

theorem Built.combinationAt_selects {dimensions : List Dimension} {e : Engine σ}
    {cursor : List Nat} (built : Built dimensions e) (within : Odometer.Within e.sizes cursor) :
    ∃ c, e.combinationAt cursor = .ok c ∧ Selects dimensions cursor c := by
  obtain ⟨entries, chosen, selects⟩ := choose_selects (built.indexes_within within)
  refine ⟨⟨entries⟩, ?_, selects⟩
  rw [combinationAt, built.dimensions_eq, chosen]

theorem Sound.cursor_fresh {dimensions : List Dimension} {e : Engine σ} (sound : Sound dimensions e)
    (fresh : e.beforeStart = true) : e.cursor = Odometer.zeros e.sizes := by
  cases status : e.status with
  | pending => exact (sound.pending status).2.1
  | positioned => simp [(sound.positioned status).1] at fresh
  | exhausted => exact (sound.exhausted status).2

theorem examine_tried {dimensions : List Dimension} {e : Engine σ} {cursor : List Nat}
    (built : Built dimensions e) (within : Odometer.Within e.sizes cursor) :
    ∃ trial hook, e.examine cursor = .ok (trial, hook) ∧ trial.cursor = cursor ∧
      Tried dimensions e.hook trial hook := by
  have verdict := built.verdict_eq within
  cases hooked : e.hook with
  | none =>
    refine ⟨_, none, ?_, rfl, .unhooked cursor⟩
    simp only [examine, verdict, hooked]
  | some hook =>
    obtain ⟨c, combination, selects⟩ := built.combinationAt_selects within
    refine ⟨_, _, ?_, rfl, .hooked hook selects⟩
    simp only [examine, verdict, hooked, combination]

theorem mem_sizes_pos {e : Engine σ} {size : Nat} (member : size ∈ e.sizes) : 0 < size := by
  obtain ⟨d, -, rfl⟩ := List.mem_map.1 member
  exact d.length_pos

theorem Move.Concludes.cons {moved : Bool} {trial : Trial} {trials : List Trial} {e : Engine σ}
    (concludes : Move.Concludes ⟨moved, trials, e⟩) (refused : trial.accepted = false) :
    Move.Concludes ⟨moved, trial :: trials, e⟩ := by
  cases moved with
  | true =>
    obtain ⟨before, last, rfl, all, accepted, reached⟩ := concludes
    exact ⟨trial :: before, last, rfl, List.forall_mem_cons.2 ⟨refused, all⟩, accepted, reached⟩
  | false => exact List.forall_mem_cons.2 ⟨refused, concludes⟩

theorem Move.Concludes.accepted_cursors {m : Move σ} (concludes : m.Concludes) :
    (m.trials.filter Trial.accepted).map Trial.cursor =
      if m.moved then [m.engine.cursor] else [] := by
  unfold Concludes at concludes
  split at concludes
  next moved =>
    obtain ⟨refused, last, all, none, accepted, reached⟩ := concludes
    have before : refused.filter Trial.accepted = [] := List.filter_eq_nil_iff.2 (by simpa using none)
    rw [all, List.filter_append, before, if_pos moved, reached]
    simp [accepted]
  next still =>
    rw [List.filter_eq_nil_iff.2 (by simpa using concludes), if_neg still, List.map_nil]

theorem search_eq {e : Engine σ} {cursor : List Nat} {done : List Trial} {trial : Trial}
    {hook : Option (Hook σ)} (examined : e.examine cursor = .ok (trial, hook)) :
    e.search cursor done =
      let reached := { e with cursor := cursor, beforeStart := false, hook := hook }
      if trial.accepted then .ok ⟨true, (trial :: done).reverse, reached.accept⟩
      else
        match Odometer.next? e.sizes cursor with
        | none => .ok ⟨false, (trial :: done).reverse, reached.exhaust⟩
        | some after => search reached after (trial :: done) := by
  rw [search, examined]
  dsimp only
  split
  · rfl
  · split
    next last => rw [last]
    next more => rw [more]

theorem search_advances {dimensions : List Dimension} {e : Engine σ} {cursor : List Nat}
    (done : List Trial) (built : Built dimensions e) (within : Odometer.Within e.sizes cursor) :
    ∃ m trials, e.search cursor done = .ok m ∧ m.trials = done.reverse ++ trials ∧
      Sound dimensions m.engine ∧
      trials.map Trial.cursor ++ m.engine.todo =
        (Odometer.readings e.sizes).drop (Odometer.rank e.sizes cursor) ∧
      Reviews dimensions e.hook trials m.engine.hook ∧
      Move.Concludes ⟨m.moved, trials, m.engine⟩ ∧ m.engine.isExhausted = !m.moved := by
  induction bound : Odometer.left e.sizes cursor using Nat.strong_induction_on
    generalizing e cursor done with
  | _ n ih =>
    obtain ⟨trial, hook, examined, rfl, tried⟩ := examine_tried built within
    rw [search_eq examined, Odometer.drop_rank within]
    by_cases accepted : trial.accepted = true
    · rw [if_pos accepted]
      refine ⟨_, [trial], rfl, by simp, ?_, rfl, .cons tried (.nil _), ?_, rfl⟩
      · exact ⟨⟨built.dimensions_eq, built.compiled⟩, within, nofun, fun _ => ⟨rfl, rfl⟩, nofun⟩
      · exact ⟨[], trial, rfl, nofun, accepted, rfl⟩
    · rw [if_neg accepted]
      have refused : trial.accepted = false := by simpa using accepted
      cases following : Odometer.next? e.sizes trial.cursor with
      | none =>
        rw [Odometer.drop_next? within, following]
        have zeros : Odometer.Within e.sizes (Odometer.zeros e.sizes) :=
          Odometer.within_zeros fun _ => mem_sizes_pos
        refine ⟨_, [trial], rfl, by simp, ?_, rfl, .cons tried (.nil _), ?_, rfl⟩
        · exact ⟨⟨built.dimensions_eq, built.compiled⟩, zeros, nofun, nofun, fun _ => ⟨rfl, rfl⟩⟩
        · exact List.forall_mem_singleton.2 refused
      | some after =>
        have inside := Odometer.within_next? within following
        have fewer : Odometer.left e.sizes after < n := bound ▸ Odometer.left_next? following
        obtain ⟨m, trials, found, all, sound, rest, reviews, concludes, ended⟩ :=
          ih _ fewer (e := { e with cursor := trial.cursor, beforeStart := false, hook := hook })
            (trial :: done) ⟨built.dimensions_eq, built.compiled⟩ inside rfl
        refine ⟨m, trial :: trials, found, by simp [all], sound, ?_, .cons tried reviews,
          concludes.cons refused, ended⟩
        rw [Odometer.drop_next? within, following, List.map_cons, List.cons_append, rest]
        exact congrArg _ (Odometer.drop_rank inside)

theorem advance_idle {e : Engine σ} (idle : e.isEmpty = true ∨ e.isExhausted = true) :
    e.advance = .ok ⟨false, [], e⟩ := by
  unfold advance
  rw [if_pos]
  simpa using idle

theorem advance_advances {dimensions : List Dimension} {e : Engine σ} (sound : Sound dimensions e) :
    ∃ m, e.advance = .ok m ∧ Advances dimensions e m := by
  have onward (cursor : List Nat) (within : Odometer.Within e.sizes cursor)
      (ahead : e.todo = (Odometer.readings e.sizes).drop (Odometer.rank e.sizes cursor)) :
      ∃ m, e.search cursor [] = .ok m ∧ Advances dimensions e m := by
    obtain ⟨m, trials, found, rfl, after, rest, reviews, concludes, ended⟩ :=
      search_advances [] sound.toBuilt within
    exact ⟨m, found, after, rest.trans ahead.symm, reviews, concludes, fun _ => ended⟩
  unfold advance
  by_cases still : (e.isEmpty || e.isExhausted) = true
  · rw [if_pos still]
    refine ⟨_, rfl, sound, rfl, .nil _, nofun, fun some => ?_⟩
    have occupied : e.isEmpty = false := by
      rw [isEmpty, sound.dimensions_eq]
      exact List.isEmpty_eq_false_iff.2 some
    simpa [occupied] using still
  · rw [if_neg still]
    have ended : e.isExhausted = false := by simp_all
    by_cases fresh : e.beforeStart = true
    · rw [if_pos fresh]
      refine onward e.cursor sound.within ?_
      rw [sound.cursor_fresh fresh, Odometer.rank_zeros]
      simp [todo, ended, fresh]
    · rw [if_neg fresh]
      have ahead : e.todo = (Odometer.readings e.sizes).drop (Odometer.rank e.sizes e.cursor + 1) := by
        simp [todo, ended, fresh]
      split
      next last =>
        rw [Odometer.drop_next? sound.within, last] at ahead
        have zeros : Odometer.Within e.sizes (Odometer.zeros e.sizes) :=
          Odometer.within_zeros fun _ => mem_sizes_pos
        refine ⟨_, rfl, ?_, ahead.symm, .nil _, nofun, fun _ => rfl⟩
        exact ⟨⟨sound.dimensions_eq, sound.compiled⟩, zeros, nofun, nofun, fun _ => ⟨rfl, rfl⟩⟩
      next after more =>
        refine onward after (Odometer.within_next? sound.within more) ?_
        rw [ahead, ← Odometer.rank_next? sound.within more]

theorem snapshot_selects {dimensions : List Dimension} {e : Engine σ} (sound : Sound dimensions e) :
    ∃ c, e.snapshot = .ok c ∧ Selects dimensions e.cursor c :=
  sound.combinationAt_selects sound.within

theorem run_eq {e : Engine σ} {m : Move σ} (advanced : e.advance = .ok m) :
    e.run =
      if m.moved then
        match m.engine.snapshot with
        | .error fault => .error fault
        | .ok c =>
          match m.engine.run with
          | .error fault => .error fault
          | .ok later =>
            .ok
              { later with
                cursors := m.engine.cursor :: later.cursors
                combinations := c :: later.combinations
                trials := m.trials ++ later.trials }
      else .ok ⟨[], [], m.trials, m.engine⟩ := by
  rw [run]
  split
  next failed => simp [advanced] at failed
  next found =>
    rw [advanced] at found
    cases found
    rfl

theorem new_sound {dimensions : List Dimension} {e : Engine σ}
    (built : Engine.new dimensions = .ok e) : Sound dimensions e := by
  unfold Engine.new at built
  dsimp only at built
  split at built
  · cases built
  · split at built
    · cases built
    next compiled =>
      cases built
      exact ⟨⟨rfl, compiled⟩, Odometer.within_zeros fun _ => mem_sizes_pos (e := _),
        fun _ => ⟨rfl, rfl, rfl⟩, nofun, nofun⟩

theorem new_fresh {dimensions : List Dimension} {e : Engine σ}
    (built : Engine.new dimensions = .ok e) :
    e.todo = Odometer.readings (dimensions.map Dimension.length) ∧ e.hook = none ∧
      e.isExhausted = false := by
  unfold Engine.new at built
  dsimp only at built
  split at built
  · cases built
  · split at built
    · cases built
    · cases built
      exact ⟨rfl, rfl, rfl⟩

def shirts : List Dimension :=
  [⟨"Size", [.text "Small", .text "Medium", .text "Large"], none, by decide, by simp, by simp⟩,
    ⟨"Color", [.text "Red", .text "Green"], some [none, some "Size==0"], by decide, by simp, by simp⟩]

def shirtEngine : Engine σ :=
  ⟨shirts, [[none, none, none], [none, some (.compare 0 .equal 0)]], [0, 0], true, .pending, false,
    none⟩

theorem new_shirts : (Engine.new shirts : Except Error (Engine σ)) = .ok shirtEngine := by
  cbv

end ParamGrid.Engine
