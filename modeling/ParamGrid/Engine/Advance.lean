import ParamGrid.Engine.Basic

set_option autoImplicit false

namespace ParamGrid.Engine

variable {σ : Type}

structure Trial where
  cursor : List Nat
  verdict : Bool
  answer : Option Bool
  deriving DecidableEq, Repr

def Trial.accepted (t : Trial) : Bool :=
  t.answer.getD t.verdict

def filtersAccept (cursor : List Nat) :
    List (List (Option Filter)) → List Nat → Except IndexFault Bool
  | slots :: filters, index :: indexes =>
    match lookup slots index with
    | .error fault => .error fault
    | .ok filter =>
      match Filter.accepts cursor filter with
      | .ok true => filtersAccept cursor filters indexes
      | other => other
  | _, _ => .ok true

def verdict (e : Engine σ) (cursor : List Nat) : Except IndexFault Bool :=
  filtersAccept cursor e.filters cursor

def examine (e : Engine σ) (cursor : List Nat) : Except IndexFault (Trial × Option (Hook σ)) :=
  match e.verdict cursor with
  | .error fault => .error fault
  | .ok verdict =>
    match e.hook with
    | none => .ok (⟨cursor, verdict, none⟩, none)
    | some hook =>
      match e.combinationAt cursor with
      | .error fault => .error fault
      | .ok combination =>
        let (answer, state) := hook.review hook.state combination verdict
        .ok (⟨cursor, verdict, some answer⟩, some { hook with state := state })

structure Move (σ : Type) where
  moved : Bool
  trials : List Trial
  engine : Engine σ

def accept (e : Engine σ) : Engine σ :=
  { e with status := .positioned, committed := true }

def exhaust (e : Engine σ) : Engine σ :=
  { e with cursor := Odometer.zeros e.sizes, beforeStart := false, status := .exhausted }

def search (e : Engine σ) (cursor : List Nat) (done : List Trial) :
    Except IndexFault (Move σ) :=
  match e.examine cursor with
  | .error fault => .error fault
  | .ok (trial, hook) =>
    let reached := { e with cursor := cursor, beforeStart := false, hook := hook }
    if trial.accepted then .ok ⟨true, (trial :: done).reverse, reached.accept⟩
    else
      match _more : Odometer.next? e.sizes cursor with
      | none => .ok ⟨false, (trial :: done).reverse, reached.exhaust⟩
      | some after => search reached after (trial :: done)
termination_by Odometer.left e.sizes cursor
decreasing_by exact Odometer.left_next? _more

def advance (e : Engine σ) : Except IndexFault (Move σ) :=
  if e.isEmpty || e.isExhausted then .ok ⟨false, [], e⟩
  else if e.beforeStart then e.search e.cursor []
  else
    match Odometer.next? e.sizes e.cursor with
    | none => .ok ⟨false, [], e.exhaust⟩
    | some after => e.search after []

def remaining (e : Engine σ) : Nat :=
  Odometer.left e.sizes e.cursor + if e.beforeStart then 1 else 0

theorem search_remaining {e : Engine σ} {cursor : List Nat} {done : List Trial} {m : Move σ}
    (found : e.search cursor done = .ok m) (moved : m.moved = true) :
    m.engine.remaining ≤ Odometer.left e.sizes cursor := by
  fun_induction search e cursor done generalizing m with
  | case1 => simp at found
  | case2 =>
    cases found
    exact Nat.le_refl _
  | case3 =>
    cases found
    simp at moved
  | case4 _ _ _ _ _ _ _ _ _ more =>
    rename_i ih
    exact Nat.le_trans (ih found moved) (Nat.le_of_lt (Odometer.left_next? more))

theorem advance_remaining {e : Engine σ} {m : Move σ} (found : e.advance = .ok m)
    (moved : m.moved = true) : m.engine.remaining < e.remaining := by
  unfold advance at found
  split at found
  · cases found
    simp at moved
  · split at found
    next before =>
      have bound := search_remaining found moved
      simp only [remaining, before, if_true] at bound ⊢
      omega
    · split at found
      · cases found
        simp at moved
      next after more =>
        have bound := search_remaining found moved
        have fewer := Odometer.left_next? more
        unfold remaining at bound ⊢
        omega

def take (e : Engine σ) : Nat → Except IndexFault (List Combination × Engine σ)
  | 0 => .ok ([], e)
  | n + 1 =>
    match e.advance with
    | .error fault => .error fault
    | .ok move =>
      if move.moved then
        match move.engine.snapshot with
        | .error fault => .error fault
        | .ok c =>
          match move.engine.take n with
          | .error fault => .error fault
          | .ok (cs, after) => .ok (c :: cs, after)
      else .ok ([], move.engine)

structure Run (σ : Type) where
  cursors : List (List Nat)
  combinations : List Combination
  trials : List Trial
  engine : Engine σ

def run (e : Engine σ) : Except IndexFault (Run σ) :=
  match _found : e.advance with
  | .error fault => .error fault
  | .ok move =>
    if _moved : move.moved then
      match move.engine.snapshot with
      | .error fault => .error fault
      | .ok c =>
        match run move.engine with
        | .error fault => .error fault
        | .ok later =>
          .ok
            { later with
              cursors := move.engine.cursor :: later.cursors
              combinations := c :: later.combinations
              trials := move.trials ++ later.trials }
    else .ok ⟨[], [], move.trials, move.engine⟩
termination_by e.remaining
decreasing_by exact advance_remaining _found _moved

end ParamGrid.Engine
