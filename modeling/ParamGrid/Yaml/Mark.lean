set_option autoImplicit false

namespace ParamGrid.Yaml

def isAllowed (c : Char) : Bool :=
  c = '\t' || c = '\n' || c = '\r' || c.toNat = 0x85 || (0x20 ≤ c.toNat && c.toNat ≤ 0x7E) ||
    (0xA0 ≤ c.toNat && c.toNat ≤ 0xFFFD) || 0x10000 ≤ c.toNat

-- Writes every line end as a line feed. The separators of lines and paragraphs stay as they are:
-- they end a line, and they are part of the text.
def unifyBreaks : List Char → List Char
  | '\r' :: '\n' :: rest => '\n' :: unifyBreaks rest
  | '\r' :: rest => '\n' :: unifyBreaks rest
  | c :: rest => (if c.toNat = 0x85 then '\n' else c) :: unifyBreaks rest
  | [] => []

def isBreak (c : Char) : Bool :=
  c = '\n' || c = '\u2028' || c = '\u2029'

def isBlank (c : Char) : Bool :=
  c = ' ' || c = '\t'

def isWhite (c : Char) : Bool :=
  isBlank c || isBreak c

def atWhite : List Char → Bool
  | c :: _ => isWhite c
  | [] => true

def isWord (c : Char) : Bool :=
  c.isAlphanum || c = '_' || c = '-'

def isFlowIndicator (c : Char) : Bool :=
  c = ',' || c = '[' || c = ']' || c = '\x7b' || c = '\x7d'

structure Mark where
  index : Nat
  line : Nat
  column : Nat
  deriving DecidableEq

namespace Mark

def start : Mark := ⟨0, 0, 0⟩

def right (m : Mark) (n : Nat) : Mark :=
  ⟨m.index + n, m.line, m.column + n⟩

def after (m : Mark) (c : Char) : Mark :=
  if isBreak c then ⟨m.index + c.utf8Size, m.line + 1, 0⟩
  else ⟨m.index + c.utf8Size, m.line, m.column + 1⟩

end Mark

def atDocumentMarker : List Char → Bool
  | '-' :: '-' :: '-' :: rest => atWhite rest
  | '.' :: '.' :: '.' :: rest => atWhite rest
  | _ => false

structure Reading (α : Type) where
  value : α
  mark : Mark
  rest : List Char

def readWhile (p : Char → Bool) (mark : Mark) (text : List Char) : Reading (List Char) :=
  let taken := text.takeWhile p
  ⟨taken, taken.foldl Mark.after mark, text.dropWhile p⟩

def readLineEnd? (mark : Mark) (text : List Char) : Option (Mark × List Char) :=
  let blanks := readWhile isBlank mark text
  let comment := if blanks.rest.head? = some '#'
    then readWhile (fun c => !isBreak c) blanks.mark blanks.rest
    else blanks
  match comment.rest with
  | [] => some (comment.mark, [])
  | c :: rest => if isBreak c then some (comment.mark.after c, rest) else none

end ParamGrid.Yaml
