import ParamGrid.Proofs.Filter.Evaluation
import ParamGrid.Proofs.Filter.Resolution

set_option autoImplicit false

namespace ParamGrid.Filter

theorem compile_append_names {names : List String} {origin source : String} {filter : Option Filter}
    (more : List String) (compiled : compile names origin source = .ok filter) :
    compile (names ++ more) origin source = .ok filter := by
  rcases compile_append_or_misses names more origin source with same | ⟨_, _, _, _, _, refused⟩
  · exact same.trans compiled
  · rw [compiled] at refused
    cases refused

theorem lookup_eq_ok_iff {α : Type} {items : List α} {index : Nat} {item : α} :
    lookup items index = .ok item ↔ items[index]? = some item := by
  unfold lookup
  cases items[index]? <;> simp

theorem lookup_append {α : Type} {items : List α} {index : Nat} {item : α} (more : List α)
    (found : lookup items index = .ok item) : lookup (items ++ more) index = .ok item := by
  rw [lookup_eq_ok_iff] at found ⊢
  obtain ⟨bound, -⟩ := List.getElem?_eq_some_iff.1 found
  rwa [List.getElem?_append_left bound]

theorem eval_append {cursor : List Nat} {f : Filter} {b : Bool} (more : List Nat)
    (evaluated : f.eval cursor = .ok b) : f.eval (cursor ++ more) = .ok b := by
  induction f generalizing b with
  | compare dimension comparator position =>
    rw [eval] at evaluated ⊢
    cases found : lookup cursor dimension with
    | error fault => simp [found] at evaluated
    | ok chosen =>
      rw [lookup_append more found]
      rwa [found] at evaluated
  | join connective left right leftIh rightIh =>
    cases first : left.eval cursor with
    | error fault => cases connective <;> simp [eval, first] at evaluated
    | ok l =>
      have same := leftIh first
      -- The right side is reached on both cursors or on neither.
      cases connective <;> cases l <;> simp only [eval, first, same] at evaluated ⊢
      case and.true => exact rightIh evaluated
      case or.false => exact rightIh evaluated
      case and.false => exact evaluated
      case or.true => exact evaluated

theorem accepts_append {cursor : List Nat} {filter : Option Filter} {b : Bool} (more : List Nat)
    (accepted : accepts cursor filter = .ok b) : accepts (cursor ++ more) filter = .ok b := by
  cases filter with
  | none => exact accepted
  | some f => exact eval_append more accepted

end ParamGrid.Filter
