set_option autoImplicit false

namespace ParamGrid.Odometer

def next? : (sizes digits : List Nat) → Option (List Nat)
  | size :: sizes, digit :: digits =>
    if digit + 1 < size then some ((digit + 1) :: digits)
    else (next? sizes digits).map (0 :: ·)
  | _, _ => none

def left : (sizes digits : List Nat) → Nat
  | size :: sizes, digit :: digits => (size - 1 - digit) + (size - 1 + 1) * left sizes digits
  | _, _ => 0

theorem left_next? {sizes digits after : List Nat} (h : next? sizes digits = some after) :
    left sizes after < left sizes digits := by
  induction sizes, digits using next?.induct generalizing after with
  | case1 size sizes digit digits bound =>
    simp only [next?, bound, if_true, Option.some.injEq] at h
    subst h
    simp only [left]
    omega
  | case2 size sizes digit digits bound ih =>
    simp only [next?, bound, if_false, Option.map_eq_some_iff] at h
    obtain ⟨rest, found, rfl⟩ := h
    have fewer := Nat.mul_le_mul_left (size - 1 + 1) (Nat.succ_le_of_lt (ih found))
    simp only [Nat.mul_succ] at fewer
    simp only [left]
    omega
  | case3 sizes digits notBoth =>
    simp [next?] at h

def zeros (sizes : List Nat) : List Nat :=
  sizes.map fun _ => 0

def readings : (sizes : List Nat) → List (List Nat)
  | [] => [[]]
  | size :: sizes => (readings sizes).flatMap fun digits => (List.range size).map (· :: digits)

def rank : (sizes digits : List Nat) → Nat
  | size :: sizes, digit :: digits => digit + size * rank sizes digits
  | _, _ => 0

end ParamGrid.Odometer
