import ParamGrid.Text.Printable

set_option autoImplicit false

namespace ParamGrid.Text

def hexDigits (n : Nat) : List Char :=
  Nat.toDigits 16 n

def quoteChar (c : Char) : List Char :=
  match c with
  | '"' => ['\\', '"']
  | '\\' => ['\\', '\\']
  | '\n' => ['\\', 'n']
  | '\r' => ['\\', 'r']
  | '\t' => ['\\', 't']
  | '\x00' => ['\\', '0']
  | c => if isPrintable c then [c] else "\\u\x7b".toList ++ hexDigits c.toNat ++ "\x7d".toList

def quoteChars (s : List Char) : List Char :=
  '"' :: (s.flatMap quoteChar ++ ['"'])

def quote (s : String) : String :=
  String.ofList (quoteChars s.toList)

def bracketed (items : List String) : String :=
  "[" ++ ", ".intercalate items ++ "]"

end ParamGrid.Text
