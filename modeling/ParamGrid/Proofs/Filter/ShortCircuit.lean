import ParamGrid.Proofs.Filter.Evaluation
import ParamGrid.Proofs.Filter.Extension

set_option autoImplicit false

namespace ParamGrid

def Connective.apply : Connective → Bool → Bool → Bool
  | and, left, right => left && right
  | or, left, right => left || right

def Connective.settles : Connective → Bool → Bool
  | and, left => !left
  | or, left => left

theorem Connective.apply_of_settles {connective : Connective} {left : Bool} (right : Bool)
    (settled : connective.settles left = true) : connective.apply left right = left := by
  cases connective <;> cases left <;> simp_all [apply, settles]

theorem Connective.apply_of_not_settles {connective : Connective} {left : Bool} (right : Bool)
    (undecided : connective.settles left = false) : connective.apply left right = right := by
  cases connective <;> cases left <;> simp_all [apply, settles]

namespace Filter

variable {cursor : List Nat} {f : Filter}

structure Comparison where
  dimension : Nat
  comparator : Comparator
  position : Nat
  deriving DecidableEq, Repr

def comparisons : Filter → List Comparison
  | compare dimension comparator position => [⟨dimension, comparator, position⟩]
  | join _ left right => left.comparisons ++ right.comparisons

def evalStrict (cursor : List Nat) : Filter → Except IndexFault Bool
  | compare dimension comparator position =>
    (lookup cursor dimension).map fun chosen => Comparator.holds comparator chosen position
  | join connective left right =>
    (left.evalStrict cursor).bind fun l => (right.evalStrict cursor).map (connective.apply l)

def answer (position : Nat → Nat) : Filter → Bool
  | compare dimension comparator wanted => Comparator.holds comparator (position dimension) wanted
  | join connective left right => connective.apply (left.answer position) (right.answer position)

-- The comparisons that are looked at on the way to the answer, in this order: the right side of a
-- connective comes after the left one, and not at all if the left one settles the answer.
def visited (position : Nat → Nat) : Filter → List Comparison
  | compare dimension comparator wanted => [⟨dimension, comparator, wanted⟩]
  | join connective left right =>
    left.visited position ++
      if connective.settles (left.answer position) then [] else right.visited position

theorem visited_sublist (position : Nat → Nat) (f : Filter) :
    (f.visited position).Sublist f.comparisons := by
  induction f with
  | compare => exact .refl _
  | join connective left right leftIh rightIh =>
    refine leftIh.append ?_
    split
    · exact List.nil_sublist _
    · exact rightIh

theorem within_iff {count : Nat} : f.Within count ↔ ∀ c ∈ f.comparisons, c.dimension < count := by
  induction f with
  | compare => simp [Within, comparisons]
  | join _ left right leftIh rightIh =>
    rw [Within, comparisons, leftIh, rightIh, List.forall_mem_append]

def outcome (cursor : List Nat) (looked : List Comparison) (answer : Bool) : Except IndexFault Bool :=
  match looked.find? fun c => cursor.length ≤ c.dimension with
  | some c => .error ⟨cursor.length, c.dimension⟩
  | none => .ok answer

theorem outcome_eq_ok_iff {looked : List Comparison} {answer b : Bool} :
    outcome cursor looked answer = .ok b ↔
      (∀ c ∈ looked, c.dimension < cursor.length) ∧ answer = b := by
  have inside : (looked.find? fun c => cursor.length ≤ c.dimension) = none ↔
      ∀ c ∈ looked, c.dimension < cursor.length := by simp
  rw [outcome, ← inside]
  cases looked.find? fun c => cursor.length ≤ c.dimension <;> simp

theorem outcome_eq_error_iff {looked : List Comparison} {answer : Bool} {fault : IndexFault} :
    outcome cursor looked answer = .error fault ↔
      ∃ before reached after, looked = before ++ reached :: after ∧
        (∀ c ∈ before, c.dimension < cursor.length) ∧ cursor.length ≤ reached.dimension ∧
        fault = ⟨cursor.length, reached.dimension⟩ := by
  have first : ∀ c, (looked.find? fun c => cursor.length ≤ c.dimension) = some c ↔
      cursor.length ≤ c.dimension ∧ ∃ before after, looked = before ++ c :: after ∧
        ∀ b ∈ before, b.dimension < cursor.length := by
    simp [List.find?_eq_some_iff_append]
  constructor
  · intro failed
    unfold outcome at failed
    split at failed
    next c found =>
      obtain ⟨outside, before, after, split, inside⟩ := (first c).1 found
      exact ⟨before, c, after, split, inside, outside, (Except.error.inj failed).symm⟩
    · cases failed
  · rintro ⟨before, reached, after, split, inside, outside, rfl⟩
    rw [outcome, (first reached).2 ⟨outside, before, after, split, inside⟩]

theorem outcome_append {looked more : List Comparison} {first last : Bool}
    {next : Bool → Except IndexFault Bool} (goesOn : next first = outcome cursor more last) :
    outcome cursor (looked ++ more) last = (outcome cursor looked first).bind next := by
  unfold outcome
  rw [List.find?_append]
  cases looked.find? fun c => cursor.length ≤ c.dimension with
  | some c => rfl
  | none => exact goesOn.symm

theorem eval_join (connective : Connective) (left right : Filter) :
    (join connective left right).eval cursor =
      (left.eval cursor).bind fun l =>
        if connective.settles l then .ok l else right.eval cursor := by
  cases connective <;> rcases first : left.eval cursor with fault | _ | _ <;>
    simp [eval, first, Except.bind, Connective.settles]

def Agrees (position : Nat → Nat) (cursor : List Nat) : Prop :=
  ∀ (dimension chosen : Nat), cursor[dimension]? = some chosen → position dimension = chosen

theorem agrees_getD (cursor : List Nat) : Agrees (fun dimension => cursor.getD dimension 0) cursor := by
  intro dimension chosen read
  simp [List.getD_eq_getElem?_getD, read]

variable {position : Nat → Nat}

theorem lookup_eq_outcome (agrees : Agrees position cursor) (c : Comparison) :
    ((lookup cursor c.dimension).map fun chosen => Comparator.holds c.comparator chosen c.position) =
      outcome cursor [c] (Comparator.holds c.comparator (position c.dimension) c.position) := by
  cases read : cursor[c.dimension]? with
  | none =>
    have outside : cursor.length ≤ c.dimension := List.getElem?_eq_none_iff.1 read
    rw [lookup, read, outcome, List.find?_singleton, if_pos (decide_eq_true outside)]
    rfl
  | some chosen =>
    obtain ⟨inside, -⟩ := List.getElem?_eq_some_iff.1 read
    rw [lookup, read, outcome, List.find?_singleton, if_neg (by simpa using inside),
      agrees c.dimension chosen read]
    rfl

theorem eval_eq_outcome (agrees : Agrees position cursor) (f : Filter) :
    f.eval cursor = outcome cursor (f.visited position) (f.answer position) := by
  induction f with
  | compare dimension comparator wanted =>
    refine Eq.trans ?_ (lookup_eq_outcome agrees ⟨dimension, comparator, wanted⟩)
    rw [eval]
    cases lookup cursor dimension <;> rfl
  | join connective left right leftIh rightIh =>
    rw [eval_join, leftIh, rightIh]
    refine (outcome_append ?_).symm
    rw [answer]
    cases settled : connective.settles (left.answer position) with
    | true => rw [if_pos rfl, if_pos rfl, connective.apply_of_settles _ settled]; rfl
    | false => rw [if_neg (by simp), if_neg (by simp), connective.apply_of_not_settles _ settled]

theorem evalStrict_eq_outcome (agrees : Agrees position cursor) (f : Filter) :
    f.evalStrict cursor = outcome cursor f.comparisons (f.answer position) := by
  induction f with
  | compare dimension comparator wanted =>
    exact lookup_eq_outcome agrees ⟨dimension, comparator, wanted⟩
  | join connective left right leftIh rightIh =>
    rw [evalStrict, leftIh, rightIh]
    refine (outcome_append ?_).symm
    rw [answer]
    unfold outcome
    cases right.comparisons.find? fun c => cursor.length ≤ c.dimension <;> rfl

inductive AltersBeyond (count : Nat) : Filter → Filter → Prop where
  | kept (dimension : Nat) (comparator : Comparator) (wanted : Nat) :
      AltersBeyond count (compare dimension comparator wanted) (compare dimension comparator wanted)
  | altered {dimension : Nat} (comparator : Comparator) (wanted : Nat) (other : Filter) :
      count ≤ dimension → AltersBeyond count (compare dimension comparator wanted) other
  | join {left right left' right' : Filter} (connective : Connective) :
      AltersBeyond count left left' → AltersBeyond count right right' →
      AltersBeyond count (join connective left right) (join connective left' right')

theorem eval_of_altersBeyond {f g : Filter} {b : Bool} (alters : AltersBeyond cursor.length f g)
    (evaluated : f.eval cursor = .ok b) : g.eval cursor = .ok b := by
  induction alters generalizing b with
  | kept => exact evaluated
  | altered comparator wanted other outside =>
    rw [eval, lookup, List.getElem?_eq_none outside] at evaluated
    cases evaluated
  | @join left right left' right' connective _ _ leftIh rightIh =>
    rw [eval_join] at evaluated ⊢
    cases first : left.eval cursor with
    | error fault => simp [first, Except.bind] at evaluated
    | ok l =>
      rw [first] at evaluated
      rw [leftIh first]
      cases settled : connective.settles l with
      | true => simpa [Except.bind, settled] using evaluated
      | false =>
        have reached : right.eval cursor = .ok b := by simpa [Except.bind, settled] using evaluated
        simpa [Except.bind, settled] using rightIh reached

/-- Where all dimensions are inside the cursor, evaluation comes to the answer of strict evaluation. An
answer does not depend on what is outside the cursor, and where there is none the first comparison that
is visited out of range is the fault, whatever stands beyond. -/
theorem short_circuit_agrees_with_strict (f : Filter) (cursor : List Nat) :
    (f.Within cursor.length → ∃ b, f.eval cursor = .ok b ∧ f.evalStrict cursor = .ok b) ∧
      (∀ b, f.eval cursor = .ok b →
        (∀ more, f.eval (cursor ++ more) = .ok b) ∧
          ∀ g, AltersBeyond cursor.length f g → g.eval cursor = .ok b) ∧
      ∀ fault position, Agrees position cursor →
        (f.visited position).Sublist f.comparisons ∧
          (f.eval cursor = .error fault ↔
            ∃ before reached after, f.visited position = before ++ reached :: after ∧
              (∀ c ∈ before, c.dimension < cursor.length) ∧ cursor.length ≤ reached.dimension ∧
              fault = ⟨cursor.length, reached.dimension⟩) := by
  refine ⟨fun within => ?_, fun b evaluated => ⟨fun more => eval_append more evaluated, fun g alters =>
    eval_of_altersBeyond alters evaluated⟩, fun fault position agrees => ⟨visited_sublist position f, ?_⟩⟩
  · have agrees := agrees_getD cursor
    have inside := within_iff.1 within
    rw [eval_eq_outcome agrees, evalStrict_eq_outcome agrees]
    refine ⟨_, outcome_eq_ok_iff.2 ⟨fun c member => ?_, rfl⟩, outcome_eq_ok_iff.2 ⟨inside, rfl⟩⟩
    exact inside c ((visited_sublist _ f).subset member)
  · rw [eval_eq_outcome agrees, outcome_eq_error_iff]

def guarded : Filter :=
  join .and (compare 0 .equal 1) (compare 7 .equal 0)

theorem guarded_comparison_is_free :
    (guarded.Within [1, 1, 1, 1, 1, 1, 1, 0].length ∧
        ∃ b, guarded.eval [1, 1, 1, 1, 1, 1, 1, 0] = .ok b ∧
          guarded.evalStrict [1, 1, 1, 1, 1, 1, 1, 0] = .ok b) ∧
      (guarded.eval [0] = .ok false ∧ guarded.evalStrict [0] = .error ⟨1, 7⟩ ∧
        guarded.eval ([0] ++ [5, 6]) = .ok false ∧
        (join .and (compare 0 .equal 1) (compare 9 .notEqual 3)).eval [0] = .ok false) ∧
      guarded.visited (fun _ => 1) = [⟨0, .equal, 1⟩, ⟨7, .equal, 0⟩] ∧
        guarded.eval [1] = .error ⟨1, 7⟩ := by
  refine ⟨?_, ?_, rfl, ?_⟩
  · have within : guarded.Within [1, 1, 1, 1, 1, 1, 1, 0].length := by simp [guarded, Within]
    exact ⟨within, (short_circuit_agrees_with_strict guarded _).1 within⟩
  · have evaluated : guarded.eval [0] = .ok false := rfl
    obtain ⟨longer, alters⟩ := (short_circuit_agrees_with_strict guarded [0]).2.1 false evaluated
    refine ⟨evaluated, rfl, longer [5, 6], alters _ ?_⟩
    exact .join .and (.kept 0 .equal 1) (.altered .equal 0 _ (by simp))
  · have agrees : Agrees (fun _ => 1) [1] := by
      intro dimension chosen read
      have one : chosen = 1 := by simpa using List.mem_of_getElem? read
      exact one.symm
    refine ((short_circuit_agrees_with_strict guarded [1]).2.2 ⟨1, 7⟩ _ agrees).2.2 ?_
    exact ⟨[⟨0, .equal, 1⟩], ⟨7, .equal, 0⟩, [], rfl, by simp, by simp, rfl⟩

end Filter

end ParamGrid
