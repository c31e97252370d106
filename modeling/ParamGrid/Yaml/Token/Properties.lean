import ParamGrid.Yaml.FlowText
import ParamGrid.Yaml.Token

set_option autoImplicit false

namespace ParamGrid.Yaml

def endsName : List Char → Bool
  | c :: _ => isWhite c || "?:,]\x7d%@`".toList.contains c
  | [] => true

def readName? (mark : Mark) (text : List Char) : Option (Reading String) :=
  let name := readWhile isWord mark text
  if name.value = [] ∨ !endsName name.rest then none
  else some ⟨String.ofList name.value, name.mark, name.rest⟩

def isTagChar (inFull : Bool) (c : Char) : Bool :=
  isWord c || ";/?:@&=+$.%!~*'()".toList.contains c || (inFull && ",[]".toList.contains c)

def readOctet? : List Char → Option (Nat × List Char)
  | '%' :: a :: b :: rest => do
    let a ← hexValue? a
    let b ← hexValue? b
    some (16 * a + b, rest)
  | _ => none

def followers? (octet : Nat) : Option Nat :=
  if octet < 0x80 then some 0
  else if octet / 0x20 = 6 then some 1
  else if octet / 0x10 = 14 then some 2
  else if octet / 0x08 = 30 then some 3
  else none

def readFollowers? : Nat → List Char → Option (Tag × List Char)
  | 0, text => some ([], text)
  | more + 1, text => do
    let (octet, rest) ← readOctet? text
    if octet / 0x40 ≠ 2 then none
    else
      let (octets, rest) ← readFollowers? more rest
      some (octet.toUInt8 :: octets, rest)

-- The octets of a tag, some of them written as numbers. Those must have the shape of a character,
-- which need not exist. There are at most as many rounds as characters.
def tagOctets? : Nat → List Char → Option Tag
  | _, [] => some []
  | 0, _ => none
  | rounds + 1, '%' :: rest => do
    let (octet, rest) ← readOctet? ('%' :: rest)
    let more ← followers? octet
    let (octets, rest) ← readFollowers? more rest
    let tail ← tagOctets? rounds rest
    some (octet.toUInt8 :: (octets ++ tail))
  | rounds + 1, c :: rest => (tagOctets? rounds rest).map (String.utf8EncodeChar c ++ ·)

def readTagPart? (inFull : Bool) (start : List Char) (mark : Mark) (text : List Char) :
    Option (Reading Tag) := do
  let chars := readWhile (isTagChar inFull) mark text
  let octets ← tagOctets? chars.value.length chars.value
  if start = [] ∧ chars.value = [] then none
  else some ⟨Tag.cut (.ofText (String.ofList (start.drop 1)) ++ octets), chars.mark, chars.rest⟩

structure Handle where
  chars : List Char
  closed : Bool

def readHandle? (mark : Mark) : List Char → Option (Reading Handle)
  | '!' :: text =>
    let word := readWhile isWord (mark.right 1) text
    match word.rest with
    | '!' :: rest => some ⟨⟨'!' :: (word.value ++ ['!']), true⟩, word.mark.right 1, rest⟩
    | rest => some ⟨⟨'!' :: word.value, false⟩, word.mark, rest⟩
  | _ => none

def endsTag (inFlow : Bool) (text : List Char) : Bool :=
  atWhite text || (inFlow && text.head? = some ',')

def readTag? (inFlow : Bool) (mark : Mark) (text : List Char) : Option (Reading Token) := do
  let found : Reading Token ← match text with
    | '<' :: inner => do
      let tag ← readTagPart? true [] (mark.right 2) inner
      match tag.rest with
      | '>' :: rest => some ⟨.tag "" tag.value, tag.mark.right 1, rest⟩
      | _ => none
    | _ => do
      let handle ← readHandle? mark ('!' :: text)
      if handle.value.closed then
        let suffix ← readTagPart? false [] handle.mark handle.rest
        some ⟨.tag (String.ofList handle.value.chars) suffix.value, suffix.mark, suffix.rest⟩
      else
        let suffix ← readTagPart? false handle.value.chars handle.mark handle.rest
        if suffix.value = [] then some ⟨.tag "" (.ofText "!"), suffix.mark, suffix.rest⟩
        else some ⟨.tag "!" suffix.value, suffix.mark, suffix.rest⟩
  if endsTag inFlow found.rest then some found else none

def skipBlanks (mark : Mark) (text : List Char) : Reading Unit :=
  let blanks := readWhile isBlank mark text
  ⟨(), blanks.mark, blanks.rest⟩

def readVersionPart? (mark : Mark) (text : List Char) : Option (Reading Nat) :=
  let digits := readWhile Char.isDigit mark text
  if digits.value = [] ∨ 9 < digits.value.length then none
  else some ⟨Nat.ofDigitChars 10 digits.value 0, digits.mark, digits.rest⟩

def readVersion? (mark : Mark) (text : List Char) : Option (Reading Token) := do
  let blanks := skipBlanks mark text
  let major ← readVersionPart? blanks.mark blanks.rest
  match major.rest with
  | '.' :: rest =>
    let minor ← readVersionPart? (major.mark.right 1) rest
    some ⟨.versionDirective major.value minor.value, minor.mark, minor.rest⟩
  | _ => none

def readTagAbbreviation? (mark : Mark) (text : List Char) : Option (Reading Token) := do
  let blanks := skipBlanks mark text
  let handle ← readHandle? blanks.mark blanks.rest
  if !handle.value.closed ∧ handle.value.chars ≠ ['!'] then none
  else if !(handle.rest.head?.any isBlank) then none
  else
    let blanks := skipBlanks handle.mark handle.rest
    let start ← readTagPart? true [] blanks.mark blanks.rest
    if atWhite start.rest then
      some ⟨.tagDirective (String.ofList handle.value.chars) start.value, start.mark, start.rest⟩
    else none

def readDirective? (mark : Mark) (text : List Char) : Option (Reading Token) := do
  let name := readWhile isWord mark text
  if !atWhite name.rest then none
  else
    let found ← match String.ofList name.value with
      | "YAML" => readVersion? name.mark name.rest
      | "TAG" => readTagAbbreviation? name.mark name.rest
      | _ => none
    let (mark, rest) ← readLineEnd? found.mark found.rest
    some ⟨found.value, mark, rest⟩

end ParamGrid.Yaml
