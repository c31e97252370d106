import ParamGrid.Log.Event
import ParamGrid.Log.Pattern
import ParamGrid.Text.Trim

set_option autoImplicit false

namespace ParamGrid.Log

structure Directive where
  target : List Char
  field : Option (List Char)
  ceiling : Nat
  inSpan : Bool
  deriving DecidableEq, Repr

namespace Directive

def ceilings : List (String × Nat) :=
  [("off", 0), ("error", 1), ("warn", 2), ("info", 3), ("debug", 4), ("trace", 5)]

def ceiling? (text : List Char) : Option Nat :=
  let digits := if text.head? = some '+' then text.drop 1 else text
  if digits ≠ [] ∧ digits.all Char.isDigit then
    some (Nat.ofDigitChars 10 digits 0) |>.filter (· ≤ 5)
  else ceilings.lookup (String.ofList (text.map Char.toLower))

def beginsTarget (c : Char) : Bool :=
  c = '-' || c = ':' || c = '_' || Text.isAlphanumeric c

structure Brackets where
  named : Bool
  field : Option (List Char × Nat)
  rest : List Char

def readBrackets? (text : List Char) : Option Brackets :=
  let name := text.takeWhile fun c => c ≠ ']' ∧ c ≠ '\x7b'
  match text.drop name.length with
  | ']' :: rest => some ⟨true, none, rest⟩
  | _ :: field =>
    let length := (field.takeWhile (· ≠ '\x7d')).length
    match field.drop length with
    | _ :: ']' :: rest =>
      if length = 0 then none else some ⟨name ≠ [], some (field, length), rest⟩
    | _ => none
  | [] => none

def withField? (d : Directive) (text : List Char) : Option Directive :=
  let name := text.takeWhile (· ≠ '=')
  match text.drop name.length with
  | [] => some { d with field := some name }
  | _ :: value =>
    if Pattern.isValid (value.takeWhile (· ≠ '=')) then
      some { d with field := some name, inSpan := true }
    else none

def withCeiling? (d : Directive) (text : List Char) : Option Directive :=
  if text = [] then some d else (ceiling? text).map fun n => { d with ceiling := n }

-- Reads a directive. White space around it is passed over to find its parts. Yet the places where
-- they stand are not moved by what was passed over before them, so each part is cut out of the
-- whole text too far to the left.
def read? (text : List Char) : Option Directive :=
  let inner := Text.trim text
  let cut (part : List Char) := text.drop (inner.length - part.length)
  let name := inner.takeWhile fun c => c ≠ '=' ∧ c ≠ '['
  let whole : Directive := ⟨text.take name.length, none, 5, false⟩
  if !inner.head?.any fun c => c = '[' || beginsTarget c then none
  else
    match inner.drop name.length with
    | [] =>
      match ceiling? text with
      | some n => some ⟨[], none, n, false⟩
      | none => some { whole with target := text }
    | '=' :: level => whole.withCeiling? (cut level)
    | _ :: rest => do
      let brackets ← readBrackets? rest
      let d := { whole with inSpan := brackets.named }
      let d ← match brackets.field with
        | none => some d
        | some (field, length) => d.withField? ((cut field).take length)
      match brackets.rest with
      | [] => some d
      | '=' :: level => d.withCeiling? (cut level)
      | _ => none

def splitAtCommas : List Char → List (List Char)
  | [] => [[]]
  | c :: rest =>
    match splitAtCommas rest with
    | [] => [[c]]
    | part :: parts => if c = ',' then [] :: part :: parts else (c :: part) :: parts

def readAll? (text : String) : Option (List Directive) :=
  ((splitAtCommas text.toList).filter (· ≠ [])).mapM read?

def fits (d : Directive) (e : Event) : Bool :=
  !d.inSpan && d.target.isPrefixOf e.target.toList && d.field.all e.hasField

def yields (d b : Directive) : Bool :=
  d.target.length < b.target.length ||
    (d.target.length = b.target.length &&
      match d.field, b.field with
      | none, some _ => true
      | some m, some n => m.lex n fun x y => x.toNat < y.toNat
      | _, none => false)

def better (best : Option Directive) (d : Directive) : Option Directive :=
  match best with
  | none => some d
  | some b => if d.yields b then some b else some d

def allow (ds : List Directive) (e : Event) : Bool :=
  match (ds.filter (fits · e)).foldl better none with
  | none => false
  | some d => e.level.rank ≤ d.ceiling

def ofVerbosity : Nat → List Directive
  | 0 => [⟨[], none, 2, false⟩]
  | 1 => [⟨"combinatoria".toList, none, 4, false⟩]
  | _ => [⟨"combinatoria".toList, none, 5, false⟩]

def choose (environment : Option String) (verbosity : Nat) : List Directive :=
  (environment.bind readAll?).getD (ofVerbosity verbosity)

end Directive

end ParamGrid.Log
