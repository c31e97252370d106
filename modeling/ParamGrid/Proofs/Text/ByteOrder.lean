import Mathlib.Tactic.SplitIfs

set_option autoImplicit false

namespace ParamGrid.Text

def bytes (s : String) : List UInt8 :=
  s.toUTF8.data.toList

theorem bytes_eq (s : String) : bytes s = s.toList.flatMap String.utf8EncodeChar := by
  have encoded : s.toUTF8 = s.toList.utf8Encode := by simp
  rw [bytes, encoded, List.utf8Encode, List.data_toByteArray]

theorem encodeChar_append_lt {a b : Char} (lower : a < b) (x y : List UInt8) :
    String.utf8EncodeChar a ++ x < String.utf8EncodeChar b ++ y := by
  have below : a.val.toNat < b.val.toNat := lower
  have bound : b.val.toNat < 0x110000 := by
    rcases b.valid with low | high
    · exact Nat.lt_trans low (by decide)
    · exact high.2
  have quotients (v : Nat) : v / 4096 = v / 64 / 64 ∧ v / 262144 = v / 64 / 64 / 64 := by
    simp only [Nat.div_div_eq_div_mul, and_self]
  unfold String.utf8EncodeChar
  simp only [quotients]
  -- Fewer bytes have a lower first byte; of as many bytes the digits are compared one by one.
  split_ifs
  all_goals
    simp only [List.cons_append, List.cons_lt_cons_iff, UInt8.lt_iff_toNat_lt, ← UInt8.toNat_inj,
      UInt8.toNat_ofNat']
    omega

theorem flatMap_encodeChar_lt {s t : List Char} (lower : s < t) :
    s.flatMap String.utf8EncodeChar < t.flatMap String.utf8EncodeChar := by
  induction s generalizing t with
  | nil =>
    cases t with
    | nil => exact absurd lower (List.not_lt_nil [])
    | cons b t =>
      obtain ⟨byte, rest, split⟩ := List.exists_cons_of_ne_nil (String.utf8EncodeChar_ne_nil (c := b))
      simp [split]
  | cons a s ih =>
    cases t with
    | nil => exact absurd lower (List.not_lt_nil (a :: s))
    | cons b t =>
      rw [List.flatMap_cons, List.flatMap_cons]
      rcases List.cons_lt_cons_iff.1 lower with first | ⟨rfl, later⟩
      · exact encodeChar_append_lt first _ _
      · exact List.append_left_lt (ih later)

theorem bytes_lt {s t : String} (lower : s < t) : bytes s < bytes t := by
  rw [bytes_eq, bytes_eq]
  exact flatMap_encodeChar_lt (String.lt_iff.1 lower)

end ParamGrid.Text
