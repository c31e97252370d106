import ParamGrid.Decimal.Numeral
import ParamGrid.Text.Alphanumeric

set_option autoImplicit false

namespace ParamGrid.Log.Pattern

inductive Item where
  | literal (code : Nat)
  | set
  | place

def hexDigits? (n : Nat) (text : List Char) : Option (Item × List Char) :=
  let digits := text.take n
  if digits.length = n ∧ digits.all fun c => c.isDigit || "abcdefABCDEF".toList.contains c then
    let code := Nat.ofDigitChars 16 (digits.map Char.toLower) 0
    if code.isValidChar then some (.literal code, text.drop n) else none
  else none

def readEscape? : List Char → Option (Item × List Char)
  | [] => none
  | c :: rest =>
    if c = 'x' then hexDigits? 2 rest
    else if c = 'u' then hexDigits? 4 rest
    else if c = 'U' then hexDigits? 8 rest
    else if c = 'p' ∨ c = 'P' then
      if rest.head?.any "clmnpszCLMNPSZ".toList.contains then some (.set, rest.drop 1) else none
    else if "dswDSW".toList.contains c then some (.set, rest)
    else if c = 'A' ∨ c = 'z' then some (.place, rest)
    else
      match [('a', 7), ('t', 9), ('n', 10), ('v', 11), ('f', 12), ('r', 13)].lookup c with
      | some code => some (.literal code, rest)
      | none =>
        if 0x80 ≤ c.toNat ∨ c.isAlphanum ∨ c = '<' ∨ c = '>' then none
        else some (.literal c.toNat, rest)

def readItem? : List Char → Option (Item × List Char)
  | [] => none
  | '\\' :: rest => readEscape? rest
  | c :: rest => some (.literal c.toNat, rest)

def readRange? (text : List Char) : Option (List Char) := do
  let (first, rest) ← readItem? text
  let range ← match rest with
    | '-' :: c :: _ => if c = ']' ∨ c = '-' then some none else some (some (rest.drop 1))
    | _ => some none
  match first, range with
  | .place, _ => none
  | _, none => some rest
  | .literal low, some rest =>
    match ← readItem? rest with
    | (.literal high, rest) => if low ≤ high then some rest else none
    | _ => none
  | .set, some _ => none

def setNames : List String :=
  ["alnum", "alpha", "ascii", "blank", "cntrl", "digit", "graph", "lower", "print", "punct",
    "space", "upper", "word", "xdigit"]

def readSetName? : List Char → Option (List Char)
  | ':' :: text =>
    let text := if text.head? = some '^' then text.drop 1 else text
    let name := text.takeWhile (· ≠ ':')
    match text.drop name.length with
    | ':' :: ']' :: rest => if setNames.contains (String.ofList name) then some rest else none
    | _ => none
  | _ => none

def openSet (text : List Char) : List Char :=
  let text := if text.head? = some '^' then text.drop 1 else text
  match text with
  | ']' :: rest => rest
  | _ => text.dropWhile (· = '-')

def readSet? : Nat → Nat → List Char → Option (List Char)
  | _, 0, text => some text
  | 0, _, _ => none
  | rounds + 1, depth + 1, text =>
    match text with
    | [] => none
    | ']' :: rest => readSet? rounds depth rest
    | '&' :: '&' :: rest | '-' :: '-' :: rest | '~' :: '~' :: rest =>
      readSet? rounds (depth + 1) rest
    | '[' :: rest =>
      match readSetName? rest with
      | some rest => readSet? rounds (depth + 1) rest
      | none => readSet? rounds (depth + 2) (openSet rest)
    | _ => (readRange? text).bind (readSet? rounds (depth + 1))

def isGroupName : List Char → Bool
  | [] => false
  | c :: rest =>
    (c = '_' || (Text.isAlphanumeric c && !c.isDigit)) &&
      rest.all fun c => "_.[]".toList.contains c || Text.isAlphanumeric c

def areSwitches (switches : List Char) : Bool :=
  switches.all "imsUuRx-".toList.contains && switches.eraseDups.length = switches.length &&
    switches.getLast? ≠ some '-'

inductive Opening where
  | group (rest : List Char)
  | switches (rest : List Char)

def openNamed? (text : List Char) : Option Opening :=
  let name := text.takeWhile (· ≠ '>')
  match text.drop name.length with
  | _ :: rest => if isGroupName name then some (.group rest) else none
  | [] => none

def openGroup? : List Char → Option Opening
  | '?' :: 'P' :: '<' :: text | '?' :: '<' :: text => openNamed? text
  | '?' :: text =>
    let switches := text.takeWhile fun c => c ≠ ':' ∧ c ≠ ')'
    if !areSwitches switches then none
    else
      match text.drop switches.length with
      | ':' :: rest => some (.group rest)
      | _ :: rest => if switches = [] then none else some (.switches rest)
      | [] => none
  | text => some (.group text)

-- Whether the rest of a regular expression is well formed inside `depth` groups; `repeatable` tells
-- whether something stands before it that can be repeated. A round takes a character at least.
def isRegular : Nat → Nat → Bool → List Char → Bool
  | _, depth, _, [] => depth = 0
  | 0, _, _, _ => false
  | rounds + 1, depth, repeatable, c :: rest =>
    if c = '(' then
      match openGroup? rest with
      | some (.group rest) => isRegular rounds (depth + 1) false rest
      | some (.switches rest) => isRegular rounds depth false rest
      | none => false
    else if c = ')' then depth ≠ 0 && isRegular rounds (depth - 1) true rest
    else if c = '|' then isRegular rounds depth false rest
    else if c = '*' ∨ c = '+' ∨ c = '?' then
      repeatable &&
        isRegular rounds depth true (if rest.head? = some '?' then rest.drop 1 else rest)
    else if c = '\x7b' then false
    else
      let tail := if c = '[' then readSet? (rest.length + 1) 1 (openSet rest)
        else if c = '\\' then (readEscape? rest).map Prod.snd
        else some rest
      match tail with
      | some tail => isRegular rounds depth true tail
      | none => false

def isPositive (text : List Char) : Bool :=
  text.head? = some '+' &&
    ((Decimal.Numeral.read? text).isSome ||
      ["+inf", "+infinity", "+nan"].contains (String.ofList (text.map Char.toLower)))

def isValid (text : List Char) : Bool :=
  isPositive text || isRegular text.length 0 false text

end ParamGrid.Log.Pattern
