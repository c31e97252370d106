import ParamGrid.Proofs.Filter.Evaluation

set_option autoImplicit false

namespace ParamGrid.Filter

def renumber (place : Nat → Nat) : Filter → Filter
  | compare dimension comparator position => .compare (place dimension) comparator position
  | join connective left right => .join connective (left.renumber place) (right.renumber place)

def renumbering (names others : List String) (dimension : Nat) : Nat :=
  ((names[dimension]?).bind fun name => others.idxOf? name).getD 0

theorem idxOf?_renumbering {names others : List String} {name : String} {dimension : Nat}
    (known : ∀ name ∈ names, name ∈ others) (found : names.idxOf? name = some dimension) :
    others.idxOf? name = some (renumbering names others dimension) := by
  obtain ⟨bound, placed, -⟩ := List.idxOf?_eq_some_iff.1 found
  have member : name ∈ others := known name (placed ▸ List.getElem_mem bound)
  cases resolved : others.idxOf? name with
  | none => exact absurd member (List.idxOf?_eq_none_iff.1 resolved)
  | some other => simp [renumbering, List.getElem?_eq_getElem bound, placed, resolved]

theorem getElem?_renumbering {names others : List String} {dimension : Nat} {name : String}
    (placed : names[dimension]? = some name) (member : name ∈ others) :
    others[renumbering names others dimension]? = some name := by
  cases resolved : others.idxOf? name with
  | none => exact absurd member (List.idxOf?_eq_none_iff.1 resolved)
  | some other =>
    obtain ⟨bound, same, -⟩ := List.idxOf?_eq_some_iff.1 resolved
    simp [renumbering, placed, resolved, List.getElem?_eq_getElem bound, same]

theorem Derives.renumber {names others : List String} {phrase : Phrase} {tokens : List Token}
    {f : Filter} (known : ∀ name ∈ names, name ∈ others) (derived : Derives names phrase tokens f) :
    Derives others phrase tokens (f.renumber (renumbering names others)) := by
  induction derived with
  | comparison found bound => exact .comparison (idxOf?_renumbering known found) bound
  | group _ ih => exact .group ih
  | single _ ih => exact .single ih
  | join connective _ _ left right => exact .join connective left right

theorem compile_renumber {names others : List String} {origin source : String} {f : Filter}
    (known : ∀ name ∈ names, name ∈ others) (compiled : compile names origin source = .ok (some f)) :
    compile others origin source = .ok (some (f.renumber (renumbering names others))) := by
  obtain ⟨tokens, lexed, derived⟩ := compile_eq_some_iff.1 compiled
  exact compile_eq_some_iff.2 ⟨tokens, lexed, derived.renumber known⟩

theorem compile_ok_of_known {names others : List String} {origin source : String}
    {filter : Option Filter} (known : ∀ name ∈ names, name ∈ others)
    (compiled : compile names origin source = .ok filter) :
    ∃ other, compile others origin source = .ok other := by
  cases filter with
  | none => exact ⟨none, compile_eq_none_iff.2 (compile_eq_none_iff.1 compiled)⟩
  | some f => exact ⟨_, compile_renumber known compiled⟩

theorem eval_renumber {place : Nat → Nat} {cursor moved : List Nat} {f : Filter}
    (within : f.Within cursor.length)
    (same : ∀ dimension < cursor.length, moved[place dimension]? = cursor[dimension]?) :
    (f.renumber place).eval moved = f.eval cursor := by
  induction f with
  | compare dimension comparator position =>
    have found : cursor[dimension]? = some cursor[dimension] := List.getElem?_eq_getElem within
    simp only [renumber, eval, lookup, same dimension within, found]
  | join connective left right leftIh rightIh =>
    cases connective <;> simp only [renumber, eval, leftIh within.1, rightIh within.2]

theorem holds_renumber {place : Nat → Nat} {cursor moved : List Nat} {f : Filter}
    (within : f.Within cursor.length)
    (same : ∀ dimension < cursor.length, moved[place dimension]? = cursor[dimension]?) :
    (f.renumber place).holds moved = f.holds cursor := by
  simp only [holds, eval_renumber within same]

end ParamGrid.Filter
