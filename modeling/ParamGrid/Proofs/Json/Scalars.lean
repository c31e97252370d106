import Mathlib
import ParamGrid.Json.Printer
import ParamGrid.Json.Reader

set_option autoImplicit false

namespace ParamGrid.Json

def Ends (rest : List Char) : Prop :=
  ∀ c, rest.head? = some c → c.isDigit = false ∧ c ≠ '.' ∧ c ≠ 'e' ∧ c ≠ 'E'

theorem Ends.cons {c : Char} (digit : c.isDigit = false) (point : c ≠ '.') (small : c ≠ 'e')
    (large : c ≠ 'E') (rest : List Char) : Ends (c :: rest) := by
  rintro _ ⟨⟩
  exact ⟨digit, point, small, large⟩

theorem Ends.startsWithDigit {rest : List Char} (ends : Ends rest) : startsWithDigit rest = false := by
  cases rest with
  | nil => rfl
  | cons c rest => exact (ends c rfl).1

theorem le_ofDigitChars (digits : List Char) (word : Nat) : word ≤ Nat.ofDigitChars 10 digits word := by
  rw [Nat.ofDigitChars_eq_ofDigitChars_zero]
  have grows : word ≤ 10 ^ digits.length * word := Nat.le_mul_of_pos_left _ (by positivity)
  omega

theorem gather_digits {limit word : Nat} {digits rest : List Char}
    (numeric : ∀ c ∈ digits, c.isDigit = true) (bound : Nat.ofDigitChars 10 digits word ≤ limit)
    (ends : startsWithDigit rest = false) :
    gather limit word (digits ++ rest) = (Nat.ofDigitChars 10 digits word, rest) := by
  induction digits generalizing word with
  | nil =>
    cases rest with
    | nil => rfl
    | cons c rest =>
      rw [startsWithDigit] at ends
      simp [gather, ends]
  | cons c digits ih =>
    obtain ⟨first, numeric⟩ := List.forall_mem_cons.1 numeric
    rw [Nat.ofDigitChars_cons] at bound ⊢
    have fits : 10 * word + digitValue c ≤ limit := (le_ofDigitChars digits _).trans bound
    rw [List.cons_append, gather, if_pos ⟨first, fits⟩]
    exact ih numeric bound

theorem head?_toDigits {n : Nat} (positive : 0 < n) : (Nat.toDigits 10 n).head? ≠ some '0' := by
  -- The first digit is that of a tenth of the number, down to a single digit.
  induction n using Nat.strong_induction_on with
  | _ n ih =>
    by_cases small : n < 10
    · rw [Nat.toDigits_of_lt_base small]
      interval_cases n <;> decide
    · rw [Nat.toDigits_of_base_le (by decide) (by omega), List.head?_append_of_ne_nil _ Nat.toDigits_ne_nil]
      exact ih _ (by omega) (by omega)

theorem no_leading_zero {n : Nat} {rest : List Char} (ends : startsWithDigit rest = false) :
    ¬((Nat.toDigits 10 n ++ rest).head? = some '0' ∧
      startsWithDigit ((Nat.toDigits 10 n ++ rest).drop 1) = true) := by
  rintro ⟨zero, longer⟩
  by_cases positive : 0 < n
  · rw [List.head?_append_of_ne_nil _ Nat.toDigits_ne_nil] at zero
    exact head?_toDigits positive zero
  · obtain rfl : n = 0 := by omega
    simp [Nat.toDigits_zero, ends] at longer

theorem startsWithDigit_toDigits (n : Nat) (rest : List Char) :
    startsWithDigit (Nat.toDigits 10 n ++ rest) = true := by
  obtain ⟨c, digits, same⟩ := List.exists_cons_of_ne_nil (Nat.toDigits_ne_nil (n := n) (b := 10))
  have member : c ∈ Nat.toDigits 10 n := by simp [same]
  rw [same]
  exact Nat.isDigit_of_mem_toDigits (by decide) (by decide) member

theorem readUnsigned?_toDigits {n : Nat} {rest : List Char} (negative : Bool) (bound : n ≤ maxWord)
    (ends : Ends rest) :
    readUnsigned? negative (Nat.toDigits 10 n ++ rest) = some (wholeNumber negative n, rest) := by
  have numeric : ∀ c ∈ Nat.toDigits 10 n, c.isDigit = true := fun _ =>
    Nat.isDigit_of_mem_toDigits (by decide) (by decide)
  have gathered : gather maxWord 0 (Nat.toDigits 10 n ++ rest) = (n, rest) := by
    rw [gather_digits numeric (by rwa [Nat.ofDigitChars_ten_toDigits]) ends.startsWithDigit,
      Nat.ofDigitChars_ten_toDigits]
  simp only [readUnsigned?, startsWithDigit_toDigits, gathered, Bool.not_true, Bool.false_eq_true,
    if_false, if_neg (no_leading_zero ends.startsWithDigit)]
  cases rest with
  | nil => rfl
  | cons c rest =>
    obtain ⟨digit, point, small, large⟩ := ends c rfl
    simp [digit, point, small, large]

theorem wholeNumber_natAbs (n : Int64) :
    wholeNumber (decide (n.toInt < 0)) n.toInt.natAbs = .int n := by
  have low := n.le_toInt
  have high := n.toInt_lt
  unfold wholeNumber
  by_cases negative : n.toInt < 0
  · have same : -(n.toInt.natAbs : Int) = n.toInt := by omega
    rw [if_pos (by simpa using negative), if_pos ⟨by omega, by norm_num; omega⟩, same, Int64.ofInt_toInt]
  · have same : (n.toInt.natAbs : Int) = n.toInt := by omega
    rw [if_neg (by simpa using negative), if_pos (by norm_num; omega), ← Int64.ofInt_eq_ofNat, same,
      Int64.ofInt_toInt]

theorem readNumber?_intChars (n : Int64) {rest : List Char} (ends : Ends rest) :
    readNumber? (intChars n.toInt ++ rest) = some (.int n, rest) := by
  have low := n.le_toInt
  have high := n.toInt_lt
  have bound : n.toInt.natAbs ≤ maxWord := by
    norm_num [maxWord]
    omega
  have whole := wholeNumber_natAbs n
  rw [intChars]
  by_cases negative : n.toInt < 0
  · rw [decide_eq_true negative] at whole
    rw [if_pos negative, List.cons_append, readNumber?, readUnsigned?_toDigits true bound ends, whole]
  · rw [decide_eq_false negative] at whole
    have unsigned := startsWithDigit_toDigits n.toInt.natAbs rest
    rw [if_neg negative, readNumber?, readUnsigned?_toDigits false bound ends, whole]
    intro after minus
    simp [minus, startsWithDigit] at unsigned

theorem hexValue?_digitChar {n : Nat} (small : n < 16) : hexValue? (Nat.digitChar n) = some n := by
  interval_cases n <;> decide

theorem readEscapedChar?_control {c : Char} (control : c.toNat < 0x20) (rest : List Char) :
    readEscapedChar? ('0' :: '0' :: hexPair c.toNat ++ rest) = some (c, rest) := by
  have zero : hexValue? '0' = some 0 := by decide
  have unit : readUnit? ('0' :: '0' :: hexPair c.toNat ++ rest) = some (c.toNat, rest) := by
    have high : c.toNat / 16 < 16 := by omega
    have low : c.toNat % 16 < 16 := by omega
    simp only [hexPair, List.cons_append, List.nil_append, readUnit?, zero,
      hexValue?_digitChar high, hexValue?_digitChar low, Option.bind_eq_bind, Option.bind_some]
    congr 2
    omega
  rw [readEscapedChar?, unit]
  have below : ¬(0xD800 ≤ c.toNat ∧ c.toNat < 0xDC00) := by omega
  have above : ¬(0xDC00 ≤ c.toNat ∧ c.toNat < 0xE000) := by omega
  simp [below, above]

theorem readChars?_visible {c : Char} (visible : ¬c.toNat < 0x20) (quote : c ≠ '"')
    (slash : c ≠ '\\') (rounds : Nat) (rest : List Char) :
    readChars? (rounds + 1) (c :: rest) =
      (readChars? rounds rest).map fun (cs, rest) => (c :: cs, rest) := by
  rw [readChars?, if_neg (by simp [visible, slash])]
  · cases readChars? rounds rest <;> rfl
  · exact quote
  · exact fun _ same _ => slash same
  · exact fun _ _ same _ => slash same

theorem readChars?_mark {mark c : Char} (simple : simpleEscape? mark = some c) (rounds : Nat)
    (rest : List Char) :
    readChars? (rounds + 1) ('\\' :: mark :: rest) =
      (readChars? rounds rest).map fun (cs, rest) => (c :: cs, rest) := by
  have short : mark ≠ 'u' := by
    rintro rfl
    cases simple
  rw [readChars?, simple]
  · cases readChars? rounds rest <;> rfl
  · exact short

theorem readChars?_control {c : Char} (control : c.toNat < 0x20) (rounds : Nat) (rest : List Char) :
    readChars? (rounds + 1) ('\\' :: 'u' :: ('0' :: '0' :: hexPair c.toNat ++ rest)) =
      (readChars? rounds rest).map fun (cs, rest) => (c :: cs, rest) := by
  rw [readChars?, readEscapedChar?_control control]
  dsimp only [Option.bind_eq_bind, Option.bind_some]
  cases readChars? rounds rest <;> rfl

theorem readChars?_escapeChar (c : Char) (rounds : Nat) (rest : List Char) :
    readChars? (rounds + 1) (escapeChar c ++ rest) =
      (readChars? rounds rest).map fun (cs, rest) => (c :: cs, rest) := by
  unfold escapeChar
  split
  case h_8 c quote slash _ _ _ _ _ =>
    split
    next control => exact readChars?_control control rounds rest
    next visible => exact readChars?_visible visible quote slash rounds rest
  all_goals exact readChars?_mark rfl rounds rest

theorem readChars?_escaped (cs : List Char) {rounds : Nat} (enough : cs.length < rounds)
    (rest : List Char) :
    readChars? rounds (cs.flatMap escapeChar ++ '"' :: rest) = some (cs, rest) := by
  induction cs generalizing rounds with
  | nil =>
    obtain ⟨rounds, rfl⟩ := Nat.exists_eq_add_one_of_ne_zero (Nat.ne_of_gt enough)
    rfl
  | cons c cs ih =>
    obtain ⟨rounds, rfl⟩ := Nat.exists_eq_add_one_of_ne_zero (Nat.ne_of_gt (Nat.zero_lt_of_lt enough))
    rw [List.flatMap_cons, List.append_assoc, readChars?_escapeChar, ih (by simpa using enough)]
    rfl

theorem escapeChar_ne_nil (c : Char) : escapeChar c ≠ [] := by
  unfold escapeChar
  split <;> (try split) <;> simp

theorem length_le_escaped (cs : List Char) : cs.length ≤ (cs.flatMap escapeChar).length := by
  induction cs with
  | nil => rfl
  | cons c cs ih =>
    have one := List.length_pos_of_ne_nil (escapeChar_ne_nil c)
    simp only [List.flatMap_cons, List.length_append, List.length_cons]
    omega

theorem readText?_textChars (s : String) :
    ∃ inside, textChars s = '"' :: inside ∧
      ∀ rest, readText? (inside ++ rest) = some (s, rest) := by
  refine ⟨_, rfl, fun rest => ?_⟩
  have enough := length_le_escaped s.toList
  rw [readText?, List.append_assoc, List.singleton_append, readChars?_escaped]
  · simp
  · simp only [List.length_append]
    omega

end ParamGrid.Json
