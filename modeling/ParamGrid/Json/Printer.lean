import ParamGrid.Decimal.Layout
import ParamGrid.Json

set_option autoImplicit false

namespace ParamGrid.Json

def hexPair (n : Nat) : List Char :=
  [Nat.digitChar (n / 16), Nat.digitChar (n % 16)]

def escapeChar (c : Char) : List Char :=
  match c with
  | '"' => ['\\', '"']
  | '\\' => ['\\', '\\']
  | '\x08' => ['\\', 'b']
  | '\x0c' => ['\\', 'f']
  | '\n' => ['\\', 'n']
  | '\r' => ['\\', 'r']
  | '\t' => ['\\', 't']
  | c => if c.toNat < 0x20 then '\\' :: 'u' :: '0' :: '0' :: hexPair c.toNat else [c]

def textChars (s : String) : List Char :=
  '"' :: (s.toList.flatMap escapeChar ++ ['"'])

def realChars (x : Float) : List Char :=
  if x.isFinite then Decimal.Layout.json.chars x else "null".toList

def intChars (n : Int) : List Char :=
  if n < 0 then '-' :: Nat.toDigits 10 n.natAbs else Nat.toDigits 10 n.natAbs

def commaSeparated : List (List Char) → List Char
  | [] => []
  | [part] => part
  | part :: rest => part ++ ',' :: commaSeparated rest

mutual

def compactChars : Json → List Char
  | null => "null".toList
  | bool b => (if b then "true" else "false").toList
  | int n => intChars n.toInt
  | real x => realChars x
  | string s => textChars s
  | list items => '[' :: (commaSeparated (compactItems items) ++ [']'])
  | object members => '\x7b' :: (commaSeparated (compactMembers members) ++ ['\x7d'])

def compactItems : List Json → List (List Char)
  | [] => []
  | item :: rest => compactChars item :: compactItems rest

def compactMembers : List (String × Json) → List (List Char)
  | [] => []
  | (name, value) :: rest => (textChars name ++ ':' :: compactChars value) :: compactMembers rest

end

def compact (j : Json) : String :=
  String.ofList j.compactChars

def lineIndent (depth : Nat) : List Char :=
  '\n' :: List.replicate (2 * depth) ' '

def bracketLines (opening closing : Char) (depth : Nat) (parts : List (List Char)) : List Char :=
  match parts with
  | [] => [opening, closing]
  | parts =>
    opening :: (commaSeparated (parts.map (lineIndent (depth + 1) ++ ·)) ++
      lineIndent depth ++ [closing])

mutual

def prettyChars (depth : Nat) : Json → List Char
  | list items => bracketLines '[' ']' depth (prettyItems (depth + 1) items)
  | object members => bracketLines '\x7b' '\x7d' depth (prettyMembers (depth + 1) members)
  | null => "null".toList
  | bool b => (if b then "true" else "false").toList
  | int n => intChars n.toInt
  | real x => realChars x
  | string s => textChars s

def prettyItems (depth : Nat) : List Json → List (List Char)
  | [] => []
  | item :: rest => prettyChars depth item :: prettyItems depth rest

def prettyMembers (depth : Nat) : List (String × Json) → List (List Char)
  | [] => []
  | (name, value) :: rest =>
    (textChars name ++ ':' :: ' ' :: prettyChars depth value) :: prettyMembers depth rest

end

def pretty (j : Json) : String :=
  String.ofList (j.prettyChars 0)

end ParamGrid.Json
