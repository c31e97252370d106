set_option autoImplicit false

namespace ParamGrid

inductive Comparator where
  | equal
  | notEqual
  deriving DecidableEq, Repr

inductive Connective where
  | and
  | or
  deriving DecidableEq, Repr

inductive Filter where
  | compare (dimension : Nat) (comparator : Comparator) (position : Nat)
  | join (connective : Connective) (left right : Filter)
  deriving DecidableEq, Repr

def Comparator.mark : Comparator → Char
  | equal => '='
  | notEqual => '!'

def Connective.word : Connective → List Char
  | and => ['A', 'N', 'D']
  | or => ['O', 'R']

def Connective.text (c : Connective) : String :=
  String.ofList c.word

namespace Filter

def decimalChars (n : Nat) : List Char :=
  Nat.toDigits 10 n

def ordinalName (dimension : Nat) : List Char :=
  '#' :: decimalChars dimension

def chars : Filter → List Char
  | compare dimension comparator position =>
    ordinalName dimension ++ comparator.mark :: '=' :: decimalChars position
  | join connective left right =>
    '(' :: (left.chars ++ ' ' :: (connective.word ++ ' ' :: (right.chars ++ [')'])))

def text (f : Filter) : String :=
  String.ofList f.chars

end Filter

end ParamGrid
