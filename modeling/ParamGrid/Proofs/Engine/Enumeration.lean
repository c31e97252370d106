import ParamGrid.Proofs.Engine.Invariant

set_option autoImplicit false

namespace ParamGrid.Engine

variable {σ : Type}

-- The place of a cursor among all of them, where dimension 0 runs fastest.
def place (dimensions : List Dimension) (cursor : List Nat) : Nat :=
  ∑ i ∈ Finset.range dimensions.length,
    cursor.getD i 0 * ((dimensions.take i).map Dimension.length).prod

inductive Pull where
  | advance
  | take (n : Nat)

def Pull.asked : List Pull → Nat
  | [] => 0
  | .advance :: pulls => 1 + asked pulls
  | .take n :: pulls => n + asked pulls

structure Yield (σ : Type) where
  combinations : List Combination
  ended : Bool
  engine : Engine σ

def pull (e : Engine σ) : Pull → Except IndexFault (Yield σ)
  | .advance =>
    match e.advance with
    | .error fault => .error fault
    | .ok move =>
      if move.moved then
        match move.engine.snapshot with
        | .error fault => .error fault
        | .ok c => .ok ⟨[c], false, move.engine⟩
      else .ok ⟨[], true, move.engine⟩
  | .take n =>
    match e.take n with
    | .error fault => .error fault
    | .ok (cs, after) => .ok ⟨cs, decide (cs.length < n), after⟩

def pullAll (e : Engine σ) : List Pull → Except IndexFault (Yield σ)
  | [] => .ok ⟨[], false, e⟩
  | p :: pulls =>
    match e.pull p with
    | .error fault => .error fault
    | .ok first =>
      match first.engine.pullAll pulls with
      | .error fault => .error fault
      | .ok later =>
        .ok ⟨first.combinations ++ later.combinations, first.ended || later.ended, later.engine⟩

def ahead (dimensions : List Dimension) (e : Engine σ) : List (List Nat) :=
  e.todo.filter (admits dimensions)

structure Hands (dimensions : List Dimension) (e : Engine σ) (n : Nat) (y : Yield σ) : Prop where
  sound : Sound dimensions y.engine
  unhooked : y.engine.hook = none
  selects : List.Forall₂ (Selects dimensions) ((e.ahead dimensions).take n) y.combinations
  rest : y.engine.ahead dimensions = (e.ahead dimensions).drop n
  ended : y.ended = decide ((e.ahead dimensions).length < n)
  exhausted : y.engine.isExhausted = (e.isExhausted || y.ended)
  cursor : y.ended = false →
    y.engine.cursor = ((e.ahead dimensions).take n).getLast?.getD e.cursor

theorem place_eq_rank (dimensions : List Dimension) (cursor : List Nat) :
    place dimensions cursor = Odometer.rank (dimensions.map Dimension.length) cursor := by
  simp only [place, Odometer.rank_eq_sum, List.length_map, List.map_take]

theorem ahead_exhausted {dimensions : List Dimension} {e : Engine σ}
    (finished : e.isExhausted = true) : e.ahead dimensions = [] := by
  rw [ahead, todo, if_pos finished, List.filter_nil]

theorem Reviews.unhooked {dimensions : List Dimension} {trials : List Trial}
    {after : Option (Hook σ)} (reviews : Reviews dimensions none trials after) :
    after = none ∧ ∀ t ∈ trials, t.accepted = admits dimensions t.cursor := by
  generalize start : (none : Option (Hook σ)) = before at reviews
  induction reviews with
  | nil => exact ⟨rfl, nofun⟩
  | cons tried _ ih =>
    cases tried with
    | unhooked cursor =>
      obtain ⟨none, all⟩ := ih rfl
      exact ⟨none, List.forall_mem_cons.2 ⟨rfl, all⟩⟩
    | hooked => cases start

theorem Advances.unhooked {dimensions : List Dimension} {e : Engine σ} {m : Move σ}
    (advances : Advances dimensions e m) (unhooked : e.hook = none) :
    m.engine.hook = none ∧ ∀ t ∈ m.trials, t.accepted = admits dimensions t.cursor :=
  Reviews.unhooked (unhooked ▸ advances.reviews)

theorem Advances.ahead_eq {dimensions : List Dimension} {e : Engine σ} {m : Move σ}
    (advances : Advances dimensions e m) (unhooked : e.hook = none) :
    e.ahead dimensions =
      (if m.moved then [m.engine.cursor] else []) ++ m.engine.ahead dimensions := by
  have same : (m.trials.map Trial.cursor).filter (admits dimensions) =
      (m.trials.filter Trial.accepted).map Trial.cursor := by
    rw [List.filter_map, List.filter_congr (advances.unhooked unhooked).2]
    rfl
  rw [ahead, ← advances.tried, List.filter_append, same, advances.concludes.accepted_cursors]
  rfl

theorem Hands.refl {dimensions : List Dimension} {e : Engine σ} (sound : Sound dimensions e)
    (unhooked : e.hook = none) : Hands dimensions e 0 ⟨[], false, e⟩ where
  sound := sound
  unhooked := unhooked
  selects := .nil
  rest := rfl
  ended := by simp
  exhausted := by simp
  cursor := fun _ => rfl

theorem Hands.trans {dimensions : List Dimension} {e : Engine σ} {n k : Nat} {first later : Yield σ}
    (one : Hands dimensions e n first) (two : Hands dimensions first.engine k later) :
    Hands dimensions e (n + k)
      ⟨first.combinations ++ later.combinations, first.ended || later.ended, later.engine⟩ where
  sound := two.sound
  unhooked := two.unhooked
  selects := by
    have selects := two.selects
    rw [one.rest] at selects
    rw [List.take_add]
    exact List.rel_append one.selects selects
  rest := by rw [two.rest, one.rest, List.drop_drop]
  ended := by
    rw [one.ended, two.ended, one.rest, List.length_drop, ← Bool.decide_or, decide_eq_decide]
    omega
  exhausted := by rw [two.exhausted, one.exhausted, Bool.or_assoc]
  cursor := by
    intro going
    obtain ⟨before, after⟩ := Bool.or_eq_false_iff.1 going
    rw [two.cursor after, one.cursor before, one.rest, List.take_add, List.getLast?_append]
    cases (((e.ahead dimensions).drop n).take k).getLast? <;> rfl

theorem Hands.more {dimensions : List Dimension} {e : Engine σ} {n k : Nat} {y : Yield σ}
    (hands : Hands dimensions e n y) (ended : y.ended = true) (further : n ≤ k) :
    Hands dimensions e k y := by
  have short : (e.ahead dimensions).length < n := by simpa [ended] using hands.ended
  have all : (e.ahead dimensions).take k = (e.ahead dimensions).take n := by
    rw [List.take_of_length_le (by omega), List.take_of_length_le (by omega)]
  have nothing : (e.ahead dimensions).drop k = (e.ahead dimensions).drop n := by
    rw [List.drop_of_length_le (by omega), List.drop_of_length_le (by omega)]
  refine ⟨hands.sound, hands.unhooked, ?_, ?_, ?_, hands.exhausted, ?_⟩
  · rw [all]
    exact hands.selects
  · rw [nothing]
    exact hands.rest
  · rw [ended]
    exact (decide_eq_true (by omega)).symm
  · rw [all]
    exact hands.cursor

theorem advance_hands {dimensions : List Dimension} {e : Engine σ} (sound : Sound dimensions e)
    (unhooked : e.hook = none) (nonempty : dimensions ≠ []) :
    ∃ m, e.advance = .ok m ∧
      if m.moved then ∃ c, m.engine.snapshot = .ok c ∧ Hands dimensions e 1 ⟨[c], false, m.engine⟩
      else Hands dimensions e 1 ⟨[], true, m.engine⟩ := by
  obtain ⟨m, advanced, advances⟩ := advance_advances sound
  refine ⟨m, advanced, ?_⟩
  have next := advances.ahead_eq unhooked
  have status := advances.ended nonempty
  obtain ⟨still, -⟩ := advances.unhooked unhooked
  cases moved : m.moved with
  | true =>
    obtain ⟨c, snapshot, selects⟩ := snapshot_selects advances.sound
    rw [moved] at next status
    have unfinished : e.isExhausted = false := by
      rw [← Bool.not_eq_true]
      intro finished
      simp [ahead_exhausted finished] at next
    refine ⟨c, snapshot, advances.sound, still, ?_, ?_, ?_, ?_, fun _ => ?_⟩
    all_goals simp [next, status, unfinished, selects]
  | false =>
    rw [moved] at next status
    rw [ahead_exhausted status] at next
    exact ⟨advances.sound, still, by simp [next], by simp [next, ahead_exhausted status],
      by simp [next], by simp [status], nofun⟩

theorem take_hands {dimensions : List Dimension} {e : Engine σ} (sound : Sound dimensions e)
    (unhooked : e.hook = none) (nonempty : dimensions ≠ []) (n : Nat) :
    ∃ cs after, e.take n = .ok (cs, after) ∧
      Hands dimensions e n ⟨cs, decide (cs.length < n), after⟩ := by
  induction n generalizing e with
  | zero => exact ⟨[], e, rfl, .refl sound unhooked⟩
  | succ n ih =>
    obtain ⟨m, advanced, hands⟩ := advance_hands sound unhooked nonempty
    cases moved : m.moved with
    | true =>
      rw [moved] at hands
      obtain ⟨c, snapshot, first⟩ := hands
      obtain ⟨cs, after, taken, later⟩ := ih first.sound first.unhooked
      refine ⟨c :: cs, after, by simp [take, advanced, moved, snapshot, taken], ?_⟩
      have both := first.trans later
      rw [Nat.add_comm] at both
      simpa using both
    | false =>
      rw [moved] at hands
      refine ⟨[], m.engine, by simp [take, advanced, moved], ?_⟩
      have more := hands.more rfl (Nat.le_add_left 1 n)
      simpa using more

theorem pull_hands {dimensions : List Dimension} {e : Engine σ} (sound : Sound dimensions e)
    (unhooked : e.hook = none) (nonempty : dimensions ≠ []) (p : Pull) :
    ∃ y, e.pull p = .ok y ∧ Hands dimensions e (Pull.asked [p]) y := by
  cases p with
  | advance =>
    obtain ⟨m, advanced, hands⟩ := advance_hands sound unhooked nonempty
    cases moved : m.moved with
    | true =>
      rw [moved] at hands
      obtain ⟨c, snapshot, hands⟩ := hands
      exact ⟨_, by simp [pull, advanced, moved, snapshot], hands⟩
    | false =>
      rw [moved] at hands
      exact ⟨_, by simp [pull, advanced, moved], hands⟩
  | take n =>
    obtain ⟨cs, after, taken, hands⟩ := take_hands sound unhooked nonempty n
    exact ⟨_, by simp [pull, taken], hands⟩

theorem pullAll_hands {dimensions : List Dimension} {e : Engine σ} (sound : Sound dimensions e)
    (unhooked : e.hook = none) (nonempty : dimensions ≠ []) (pulls : List Pull) :
    ∃ y, e.pullAll pulls = .ok y ∧ Hands dimensions e (Pull.asked pulls) y := by
  induction pulls generalizing e with
  | nil => exact ⟨_, rfl, .refl sound unhooked⟩
  | cons p pulls ih =>
    obtain ⟨first, pulled, one⟩ := pull_hands sound unhooked nonempty p
    obtain ⟨later, followed, two⟩ := ih one.sound one.unhooked
    have split : Pull.asked (p :: pulls) = Pull.asked [p] + Pull.asked pulls := by
      cases p <;> rfl
    rw [split]
    exact ⟨_, by simp only [pullAll, pulled, followed], one.trans two⟩

theorem run_hands {dimensions : List Dimension} {e : Engine σ} (sound : Sound dimensions e)
    (unhooked : e.hook = none) (nonempty : dimensions ≠ []) :
    ∃ r, e.run = .ok r ∧ r.cursors = e.ahead dimensions ∧
      List.Forall₂ (Selects dimensions) r.cursors r.combinations ∧ r.engine.isExhausted = true := by
  induction bound : e.remaining using Nat.strong_induction_on generalizing e with
  | _ n ih =>
    obtain ⟨m, advanced, advances⟩ := advance_advances sound
    have next := advances.ahead_eq unhooked
    obtain ⟨still, -⟩ := advances.unhooked unhooked
    cases moved : m.moved with
    | true =>
      obtain ⟨c, snapshot, selects⟩ := snapshot_selects advances.sound
      have fewer : m.engine.remaining < n := bound ▸ advance_remaining advanced moved
      obtain ⟨r, ran, cursors, all, ended⟩ := ih _ fewer advances.sound still rfl
      rw [run_eq advanced, moved, snapshot, ran]
      refine ⟨_, rfl, ?_, .cons selects all, ended⟩
      rw [next, moved, cursors]
      rfl
    | false =>
      have ended : m.engine.isExhausted = true := by simp [advances.ended nonempty, moved]
      rw [run_eq advanced, moved]
      refine ⟨_, rfl, ?_, .nil, ended⟩
      rw [next, moved, ahead_exhausted ended]
      rfl

/-- For some cursors, which are the admitted ones in the strict order of their places, it holds of
all pulls: as many are handed out as were asked for, and one that goes on to the end gets the others. -/
theorem hands_out_admitted_in_order {dimensions : List Dimension} {e : Engine σ}
    (built : Engine.new dimensions = .ok e) (nonempty : dimensions ≠ []) :
    ∃ cursors : List (List Nat),
      (∀ cursor, cursor ∈ cursors ↔
        Odometer.Within (dimensions.map Dimension.length) cursor ∧
          admits dimensions cursor = true) ∧
      cursors.Pairwise (fun a b => place dimensions a < place dimensions b) ∧
      ∀ pulls, ∃ y r, e.pullAll pulls = .ok y ∧
        List.Forall₂ (Selects dimensions) (cursors.take (Pull.asked pulls)) y.combinations ∧
        y.ended = decide (cursors.length < Pull.asked pulls) ∧
        y.engine.isExhausted = y.ended ∧
        (y.ended = false → ∀ last, (cursors.take (Pull.asked pulls)).getLast? = some last →
          y.engine.cursor = last) ∧
        y.engine.run = .ok r ∧
        r.cursors = cursors.drop (Pull.asked pulls) ∧
        List.Forall₂ (Selects dimensions) r.cursors r.combinations ∧
        r.engine.isExhausted = true := by
  have sound := new_sound built
  obtain ⟨fresh, unhooked, unfinished⟩ := new_fresh built
  refine ⟨e.ahead dimensions, ?_, ?_, fun pulls => ?_⟩
  · intro cursor
    rw [ahead, fresh, List.mem_filter, Odometer.mem_readings]
  · simp only [place_eq_rank]
    rw [ahead, fresh]
    exact (Odometer.sorted_readings _).filter _
  · obtain ⟨y, pulled, hands⟩ := pullAll_hands sound unhooked nonempty pulls
    obtain ⟨r, ran, cursors, all, ended⟩ := run_hands hands.sound hands.unhooked nonempty
    refine ⟨y, r, pulled, hands.selects, hands.ended, ?_, ?_, ran, ?_, all, ended⟩
    · simpa [unfinished] using hands.exhausted
    · intro going last found
      rw [hands.cursor going, found, Option.getD_some]
    · rw [cursors, hands.rest]

theorem hands_out_shirts_in_order :
    (Engine.new shirts : Except Error (Engine Nat)) = .ok shirtEngine ∧ shirts ≠ [] ∧
      ∃ cursors : List (List Nat),
        (∀ cursor, cursor ∈ cursors ↔
          Odometer.Within [3, 2] cursor ∧ admits shirts cursor = true) ∧
        cursors.Pairwise (fun a b => place shirts a < place shirts b) ∧
        ∃ y : Yield Nat, shirtEngine.pullAll [.take 3, .advance] = .ok y ∧
          List.Forall₂ (Selects shirts) (cursors.take 4) y.combinations := by
  obtain ⟨cursors, all, ordered, hands⟩ := hands_out_admitted_in_order new_shirts nofun
  obtain ⟨y, -, pulled, selects, -⟩ := hands [.take 3, .advance]
  exact ⟨new_shirts, nofun, cursors, all, ordered, y, pulled, selects⟩

example :
    ((shirtEngine : Engine Nat).pullAll [.take 2, .advance, .take 5]).map
        (fun y => (y.combinations.length, y.ended)) =
      .ok (4, true) := by
  cbv

end ParamGrid.Engine
