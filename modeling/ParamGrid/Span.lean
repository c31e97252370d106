set_option autoImplicit false

namespace ParamGrid

structure Span where
  start : Nat
  stop : Nat
  deriving DecidableEq, Repr

namespace Span

def ofChar (start : Nat) (c : Char) : Span :=
  ⟨start, start + c.utf8Size⟩

def point (start : Nat) : Span :=
  ⟨start, start⟩

def length (s : Span) : Nat :=
  s.stop - s.start

def through (first last : Span) : Span :=
  ⟨first.start, last.stop⟩

end Span

def byteLength : List Char → Nat
  | [] => 0
  | c :: rest => c.utf8Size + byteLength rest

end ParamGrid
