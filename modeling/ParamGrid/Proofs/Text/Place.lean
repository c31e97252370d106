import Mathlib.Data.String.Basic
import ParamGrid.Span

set_option autoImplicit false

namespace ParamGrid

theorem byteLength_eq (text : List Char) : byteLength text = String.utf8Len text := by
  induction text with
  | nil => rfl
  | cons c rest ih => rw [byteLength, ih, String.utf8Len_cons, Nat.add_comm]

theorem byteLength_append (text more : List Char) :
    byteLength (text ++ more) = byteLength text + byteLength more := by
  simp only [byteLength_eq, String.utf8Len_append]

theorem byteLength_digits {digits : List Char} (inside : ∀ c ∈ digits, c.isDigit = true) :
    byteLength digits = digits.length := by
  induction digits with
  | nil => rfl
  | cons c digits ih =>
    obtain ⟨digit, inside⟩ := List.forall_mem_cons.1 inside
    have small : c.utf8Size = 1 := by
      simp only [Char.isDigit, ge_iff_le, Bool.and_eq_true, decide_eq_true_eq] at digit
      rw [Char.utf8Size_eq_one_iff]
      exact UInt32.le_trans digit.2 (by decide)
    rw [byteLength, ih inside, small, List.length_cons, Nat.add_comm]

def Ahead (text : List Char) (offset : Nat) (rest : List Char) : Prop :=
  ∃ before, text = before ++ rest ∧ byteLength before = offset

def Place (text : List Char) (offset : Nat) : Prop :=
  ∃ rest, Ahead text offset rest

namespace Ahead

variable {text rest : List Char} {offset : Nat}

theorem start (text : List Char) : Ahead text 0 text :=
  ⟨[], rfl, rfl⟩

theorem place (ahead : Ahead text offset rest) : Place text offset :=
  ⟨rest, ahead⟩

theorem behind (part : List Char) (ahead : Ahead text offset (part ++ rest)) :
    Ahead text (offset + byteLength part) rest := by
  obtain ⟨before, rfl, rfl⟩ := ahead
  exact ⟨before ++ part, (List.append_assoc ..).symm, byteLength_append before part⟩

theorem next {c : Char} (ahead : Ahead text offset (c :: rest)) :
    Ahead text (offset + c.utf8Size) rest :=
  ahead.behind [c]

end Ahead

namespace Span

variable {text : List Char} {span : Span}

structure Within (span : Span) (text : List Char) : Prop where
  ordered : span.start ≤ span.stop
  first : Place text span.start
  last : Place text span.stop

def Covers (span : Span) (text part : List Char) : Prop :=
  ∃ rest, Ahead text span.start (part ++ rest) ∧ span.stop = span.start + byteLength part

theorem Covers.within {part : List Char} (covers : span.Covers text part) : span.Within text := by
  obtain ⟨rest, ahead, stop⟩ := covers
  exact ⟨by omega, ahead.place, stop ▸ (ahead.behind part).place⟩

theorem Within.point {offset : Nat} (place : Place text offset) : (point offset).Within text :=
  ⟨Nat.le_refl offset, place, place⟩

theorem Within.through {other : Span} (first : span.Within text) (last : other.Within text)
    (later : span.stop ≤ other.stop) : (span.through other).Within text :=
  ⟨Nat.le_trans first.ordered later, first.first, last.last⟩

end Span

theorem Ahead.covers {text rest : List Char} {offset : Nat} (part : List Char)
    (ahead : Ahead text offset (part ++ rest)) :
    (⟨offset, offset + byteLength part⟩ : Span).Covers text part :=
  ⟨rest, ahead, rfl⟩

theorem Ahead.within_char {text rest : List Char} {offset : Nat} {c : Char}
    (ahead : Ahead text offset (c :: rest)) : (Span.ofChar offset c).Within text :=
  (ahead.covers [c]).within

theorem Place.isValid {source : String} {offset : Nat} (place : Place source.toList offset) :
    String.Pos.Raw.IsValid source ⟨offset⟩ := by
  obtain ⟨rest, before, text, rfl⟩ := place
  refine String.Pos.Raw.isValid_iff_exists_append.2 ⟨.ofList before, .ofList rest, ?_, ?_⟩
  · rw [← String.ofList_append, ← text, String.ofList_toList]
  · rw [byteLength_eq, ← String.utf8ByteSize_ofList]
    rfl

theorem Place.le_size {source : String} {offset : Nat} (place : Place source.toList offset) :
    offset ≤ source.utf8ByteSize :=
  place.isValid.le_rawEndPos

theorem Span.Covers.extract {source : String} {part : List Char} {span : Span}
    (covers : span.Covers source.toList part) :
    String.Pos.Raw.extract source ⟨span.start⟩ ⟨span.stop⟩ = .ofList part := by
  obtain ⟨rest, ⟨before, text, start⟩, stop⟩ := covers
  have whole : source = .ofList (before ++ part ++ rest) := by
    rw [List.append_assoc, ← text, String.ofList_toList]
  rw [stop, ← start, byteLength_eq, byteLength_eq, whole, String.extract_of_valid]

end ParamGrid
