import ParamGrid.Filter.Eval
import ParamGrid.Proofs.Filter.Parsing

set_option autoImplicit false

namespace ParamGrid.Filter

def Within (count : Nat) : Filter → Prop
  | compare dimension _ _ => dimension < count
  | join _ left right => left.Within count ∧ right.Within count

theorem Derives.within {names : List String} {phrase : Phrase} {tokens : List Token} {f : Filter}
    (derived : Derives names phrase tokens f) : f.Within names.length := by
  induction derived with
  | comparison found _ =>
    obtain ⟨bound, -⟩ := List.idxOf?_eq_some_iff.1 found
    exact bound
  | group _ ih => exact ih
  | single _ ih => exact ih
  | join _ _ _ left right => exact ⟨left, right⟩

theorem compile_within {names : List String} {origin source : String} {f : Filter}
    (compiled : compile names origin source = .ok (some f)) : f.Within names.length := by
  obtain ⟨tokens, -, derived⟩ := compile_eq_some_iff.1 compiled
  exact derived.within

theorem eval_within {cursor : List Nat} {f : Filter} (within : f.Within cursor.length) :
    ∃ b, f.eval cursor = .ok b := by
  induction f with
  | compare dimension comparator position =>
    have found : cursor[dimension]? = some cursor[dimension] := List.getElem?_eq_getElem within
    exact ⟨_, by simp only [eval, lookup, found]; rfl⟩
  | join connective left right leftIh rightIh =>
    obtain ⟨l, leftEval⟩ := leftIh within.1
    obtain ⟨r, rightEval⟩ := rightIh within.2
    cases connective <;> cases l <;> simp [eval, leftEval, rightEval]

def holds (cursor : List Nat) (f : Filter) : Bool :=
  match f.eval cursor with
  | .ok b => b
  | .error _ => false

theorem eval_eq_holds {cursor : List Nat} {f : Filter} (within : f.Within cursor.length) :
    f.eval cursor = .ok (f.holds cursor) := by
  obtain ⟨b, evaluated⟩ := eval_within within
  simp only [holds, evaluated]

def Combines : Connective → Prop → Prop → Prop
  | .and, left, right => left ∧ right
  | .or, left, right => left ∨ right

theorem holds_join {connective : Connective} {cursor : List Nat} {left right : Filter}
    (within : (join connective left right).Within cursor.length) :
    (join connective left right).holds cursor = true ↔
      Combines connective (left.holds cursor = true) (right.holds cursor = true) := by
  obtain ⟨l, leftEval⟩ := eval_within within.1
  obtain ⟨r, rightEval⟩ := eval_within within.2
  cases connective <;> cases l <;> simp [holds, eval, leftEval, rightEval, Combines]

end ParamGrid.Filter
