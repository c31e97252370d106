import ParamGrid.Proofs.Engine.Invariant

set_option autoImplicit false

namespace ParamGrid.Engine

variable {σ : Type}

structure Cycle (σ : Type) where
  engine : Engine σ
  digit : Nat
  done : List Trial

inductive Turn (σ : Type) where
  | again (next : Cycle σ)
  | stop (move : Move σ)

def turn (c : Cycle σ) : Except IndexFault (Turn σ) :=
  match lookup c.engine.cursor c.digit with
  | .error fault => .error fault
  | .ok reading =>
    let candidate := if c.engine.beforeStart then reading else reading + 1
    let e := { c.engine with beforeStart := false }
    match lookup e.dimensions c.digit with
    | .error fault => .error fault
    | .ok d =>
      if candidate = d.length then
        let reset := List.replicate (c.digit + 1) 0 ++ e.cursor.drop (c.digit + 1)
        if c.digit + 1 = e.dimensions.length then
          .ok (.stop ⟨false, c.done.reverse, { e with cursor := reset, status := .exhausted }⟩)
        else .ok (.again ⟨{ e with cursor := reset }, c.digit + 1, c.done⟩)
      else
        let cursor := e.cursor.set c.digit candidate
        match e.examine cursor with
        | .error fault => .error fault
        | .ok (trial, hook) =>
          let reached := { e with cursor := cursor, hook := hook }
          if trial.accepted then .ok (.stop ⟨true, (trial :: c.done).reverse, reached.accept⟩)
          else .ok (.again ⟨reached, 0, trial :: c.done⟩)

inductive Loops : Cycle σ → Move σ → Prop where
  | stop {c : Cycle σ} {m : Move σ} : turn c = .ok (.stop m) → Loops c m
  | again {c next : Cycle σ} {m : Move σ} :
      turn c = .ok (.again next) → Loops next m → Loops c m

def Tries (e : Engine σ) (cursor : List Nat) (done : List Trial) (m : Move σ) : Prop :=
  ∃ trial hook, e.examine cursor = .ok (trial, hook) ∧
    if trial.accepted then
      m = ⟨true, (trial :: done).reverse,
        accept { e with cursor := cursor, beforeStart := false, hook := hook }⟩
    else
      Loops ⟨{ e with cursor := cursor, beforeStart := false, hook := hook }, 0, trial :: done⟩ m

theorem loops_of_tries {e : Engine σ} {digit reading : Nat} (candidate : Nat) {d : Dimension}
    {done : List Trial} {m : Move σ} (read : e.cursor[digit]? = some reading)
    (found : e.dimensions[digit]? = some d)
    (moved : candidate = if e.beforeStart then reading else reading + 1)
    (below : candidate ≠ d.length) (tries : Tries e (e.cursor.set digit candidate) done m) :
    Loops ⟨e, digit, done⟩ m := by
  obtain ⟨trial, hook, examined, rest⟩ := tries
  have body : turn ⟨e, digit, done⟩ =
      .ok (if trial.accepted then
        .stop ⟨true, (trial :: done).reverse,
          accept { e with cursor := e.cursor.set digit candidate, beforeStart := false, hook := hook }⟩
      else
        .again ⟨{ e with
          cursor := e.cursor.set digit candidate, beforeStart := false, hook := hook }, 0,
          trial :: done⟩) := by
    unfold turn
    simp only [lookup, read, found, ← moved, below, if_false]
    rw [show examine { e with beforeStart := false } _ = .ok (trial, hook) from examined]
    dsimp only
    split <;> rfl
  split at rest
  next accepted =>
    rw [if_pos accepted] at body
    exact rest ▸ .stop body
  next refused =>
    rw [if_neg refused] at body
    exact .again body rest

-- A digit at its end is reset, and the carry goes on to the digit above.
theorem loops_carry {e : Engine σ} (lower : List Nat) {upper digits : List Nat} {done : List Trial}
    {m : Move σ} (sizes : e.sizes = lower ++ upper) (cursor : e.cursor = Odometer.zeros lower ++ digits)
    (started : e.beforeStart = false) (within : Odometer.Within upper digits) (more : upper ≠ [])
    (onward : match Odometer.next? upper digits with
      | none => m = ⟨false, done.reverse, e.exhaust⟩
      | some after => Tries e (Odometer.zeros lower ++ after) done m) :
    Loops ⟨e, lower.length, done⟩ m := by
  induction within generalizing e lower with
  | nil => exact absurd rfl more
  | @cons digit size digits upper below within ih =>
    have width : (Odometer.zeros lower).length = lower.length := by simp [Odometer.zeros]
    have read : e.cursor[lower.length]? = some digit := by simp [cursor, ← width]
    obtain ⟨d, found, rfl⟩ : ∃ d, e.dimensions[lower.length]? = some d ∧ d.length = size := by
      have placed : e.sizes[lower.length]? = some size := by simp [sizes]
      simpa [Engine.sizes] using placed
    by_cases inside : digit + 1 < d.length
    · rw [Odometer.next?, if_pos inside] at onward
      refine loops_of_tries (digit + 1) read found (by simp [started]) (Nat.ne_of_lt inside) ?_
      rw [cursor, ← width, List.set_append_right _ _ (Nat.le_refl _), Nat.sub_self]
      exact onward
    · have full : digit + 1 = d.length := by omega
      have reset : List.replicate (lower.length + 1) 0 ++ e.cursor.drop (lower.length + 1) =
          Odometer.zeros (lower ++ [d.length]) ++ digits := by
        rw [cursor, ← width, List.drop_append, List.drop_of_length_le (by simp)]
        simp [Odometer.zeros, List.replicate_succ']
      have last : lower.length + 1 = e.dimensions.length ↔ upper = [] := by
        have same := congrArg List.length sizes
        simp only [Engine.sizes, List.length_map, List.length_append, List.length_cons] at same
        rw [same, ← List.length_eq_zero_iff]
        omega
      have body : turn ⟨e, lower.length, done⟩ =
          if upper = [] then
            .ok (.stop ⟨false, done.reverse, { e with
              cursor := Odometer.zeros (lower ++ [d.length]) ++ digits, beforeStart := false,
              status := .exhausted }⟩)
          else
            .ok (.again ⟨{ e with
              cursor := Odometer.zeros (lower ++ [d.length]) ++ digits, beforeStart := false },
              lower.length + 1, done⟩) := by
        unfold turn
        simp only [lookup, read, found, started, Bool.false_eq_true, if_false, full, if_true, reset,
          last]
      rw [Odometer.next?, if_neg inside] at onward
      by_cases top : upper = []
      · subst top
        cases within
        rw [if_pos rfl, List.append_nil, ← sizes] at body
        rw [show m = _ from onward]
        exact .stop body
      · rw [if_neg top] at body
        refine .again body ?_
        have length : (lower ++ [d.length]).length = lower.length + 1 := by simp
        rw [← length]
        refine ih _ (by simpa [Engine.sizes] using sizes) rfl rfl top ?_
        cases above : Odometer.next? upper digits with
        | none =>
          rw [above] at onward
          exact onward
        | some after =>
          rw [above] at onward
          have same : Odometer.zeros (lower ++ [d.length]) ++ after =
              Odometer.zeros lower ++ 0 :: after := by simp [Odometer.zeros]
          dsimp only
          rw [same]
          exact onward

theorem loops_carry_first {e : Engine σ} {done : List Trial} {m : Move σ} (nonempty : e.dimensions ≠ [])
    (started : e.beforeStart = false) (within : Odometer.Within e.sizes e.cursor)
    (onward : match Odometer.next? e.sizes e.cursor with
      | none => m = ⟨false, done.reverse, e.exhaust⟩
      | some after => Tries e after done m) :
    Loops ⟨e, 0, done⟩ m := by
  have more : e.sizes ≠ [] := by simpa [Engine.sizes] using nonempty
  refine loops_carry [] rfl rfl started within more ?_
  exact onward

theorem search_tries {e : Engine σ} {cursor : List Nat} {done : List Trial} {m : Move σ}
    (nonempty : e.dimensions ≠ []) (within : Odometer.Within e.sizes cursor)
    (found : e.search cursor done = .ok m) : Tries e cursor done m := by
  induction bound : Odometer.left e.sizes cursor using Nat.strong_induction_on
    generalizing e cursor done with
  | _ n ih =>
    cases examined : e.examine cursor with
    | error fault =>
      rw [search, examined] at found
      cases found
    | ok result =>
      obtain ⟨trial, hook⟩ := result
      refine ⟨trial, hook, examined, ?_⟩
      rw [search_eq examined] at found
      by_cases accepted : trial.accepted = true
      · rw [if_pos accepted] at found ⊢
        exact (Except.ok.inj found).symm
      · rw [if_neg accepted] at found ⊢
        let reached : Engine σ := { e with cursor := cursor, beforeStart := false, hook := hook }
        refine loops_carry_first (e := reached) nonempty rfl within ?_
        rw [show Odometer.next? reached.sizes reached.cursor = Odometer.next? e.sizes cursor from rfl]
        cases following : Odometer.next? e.sizes cursor with
        | none =>
          rw [following] at found
          exact (Except.ok.inj found).symm
        | some after =>
          rw [following] at found
          have fewer : Odometer.left e.sizes after < n := bound ▸ Odometer.left_next? following
          exact ih _ fewer (e := reached) nonempty (Odometer.within_next? within following) found rfl

theorem advance_loops {dimensions : List Dimension} {e : Engine σ} {m : Move σ}
    (sound : Sound dimensions e) (nonempty : dimensions ≠ []) (unfinished : e.isExhausted = false)
    (advanced : e.advance = .ok m) : Loops ⟨e, 0, []⟩ m := by
  have filled : e.dimensions ≠ [] := by rwa [sound.dimensions_eq]
  have occupied : e.isEmpty = false := by simpa [isEmpty] using filled
  rw [advance, occupied, unfinished, if_neg (by simp)] at advanced
  by_cases fresh : e.beforeStart = true
  · rw [if_pos fresh] at advanced
    have tries := search_tries filled sound.within advanced
    obtain ⟨d, dimensions, split⟩ := List.exists_cons_of_ne_nil filled
    have zeros : e.cursor = Odometer.zeros e.sizes := sound.cursor_fresh fresh
    have read : e.cursor[0]? = some 0 := by simp [zeros, Odometer.zeros, Engine.sizes, split]
    refine loops_of_tries 0 read (d := d) (by simp [split]) (by simp [fresh])
      (Nat.ne_of_lt d.length_pos) ?_
    have same : e.cursor.set 0 0 = e.cursor := by simp [zeros, Odometer.zeros, Engine.sizes, split]
    rwa [same]
  · have started : e.beforeStart = false := by simpa using fresh
    rw [if_neg fresh] at advanced
    refine loops_carry_first filled started sound.within ?_
    cases following : Odometer.next? e.sizes e.cursor with
    | none =>
      rw [following] at advanced
      exact (Except.ok.inj advanced).symm
    | some after =>
      rw [following] at advanced
      exact search_tries filled (Odometer.within_next? sound.within following) advanced

end ParamGrid.Engine
