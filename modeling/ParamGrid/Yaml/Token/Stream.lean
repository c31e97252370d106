import ParamGrid.Yaml.BlockText
import ParamGrid.Yaml.Token.Layout
import ParamGrid.Yaml.Token.Properties

set_option autoImplicit false

namespace ParamGrid.Yaml

-- Passes white space and comments up to the next token. A tab is not passed where a key may begin,
-- because there it would stand for an indent. Behind a break a key may begin, except inside
-- brackets.
def skipToToken (l : Layout) (inComment : Bool) : List Char → Layout × List Char
  | [] => (l, [])
  | c :: rest =>
    let next := { l with mark := l.mark.after c }
    if isBreak c then skipToToken { next with keyAllowed := l.keyAllowed || !l.inFlow } false rest
    else if inComment then skipToToken next true rest
    else if c = '#' then skipToToken next true rest
    else if c = ' ' ∨ (c = '\t' ∧ (l.inFlow ∨ !l.keyAllowed)) ∨
        (c = '\ufeff' ∧ l.mark.column = 0) then
      skipToToken next false rest
    else (l, c :: rest)

def addReading? (l : Layout) (found : Option (Reading Token)) : Option (Layout × List Char) := do
  let l ← l.saveKey?
  let reading ← found
  some ({ l.add reading.value with mark := reading.mark, keyAllowed := false }, reading.rest)

def addBlock? (l : Layout) (literal : Bool) (rest : List Char) : Option (Layout × List Char) := do
  let l ← l.dropKey?
  let reading ← readBlock? literal l.indent (l.mark.right 1) rest
  some ({ l.add (.scalar (String.ofList reading.value) false) with
    mark := reading.mark, keyAllowed := true }, reading.rest)

def addQuoted? (l : Layout) (single : Bool) (rest : List Char) : Option (Layout × List Char) :=
  addReading? l <| (readQuoted? single [] .word (l.mark.right 1) rest).map fun reading =>
    { reading with value := .scalar (String.ofList reading.value) false }

def addPlain? (l : Layout) (text : List Char) : Option (Layout × List Char) := do
  let l ← l.saveKey?
  let reading ← readPlain? l.inFlow (l.indent + 1) [] none l.mark text
  some ({ l.add (.scalar (String.ofList reading.value.text) true) with
    mark := reading.mark, keyAllowed := reading.value.broken }, reading.rest)

def addDirective? (l : Layout) (rest : List Char) : Option (Layout × List Char) := do
  let l ← l.endBlocks?
  let reading ← readDirective? (l.mark.right 1) rest
  some ({ l.add reading.value with mark := reading.mark }, reading.rest)

def addDocumentMarker? (l : Layout) (t : Token) (text : List Char) :
    Option (Layout × List Char) := do
  let l ← l.endBlocks?
  some (l.addMark 3 t, text.drop 3)

def addOne? (l : Option Layout) (rest : List Char) : Option (Layout × List Char) :=
  l.map fun l => (l, rest)

def beginsPlain (inFlow : Bool) (c : Char) (rest : List Char) : Bool :=
  !(isWhite c || "-?:,[]\x7b\x7d#&*!|>'\"%@`".toList.contains c) ||
    (c = '-' && !(rest.head?.any isBlank)) ||
    (!inFlow && (c = '?' || c = ':') && !atWhite rest)

def addToken? (l : Layout) (c : Char) (rest : List Char) : Option (Layout × List Char) :=
  let text := c :: rest
  if l.mark.column = 0 ∧ c = '%' then addDirective? l rest
  else if l.mark.column = 0 ∧ atDocumentMarker text then
    addDocumentMarker? l (if c = '-' then .documentStart else .documentEnd) text
  else if c = '[' then addOne? (l.addOpening? .sequenceStart) rest
  else if c = '\x7b' then addOne? (l.addOpening? .mappingStart) rest
  else if c = ']' then addOne? (l.addClosing? .sequenceEnd) rest
  else if c = '\x7d' then addOne? (l.addClosing? .mappingEnd) rest
  else if c = ',' then addOne? l.addFlowEntry? rest
  else if c = '-' ∧ atWhite rest then addOne? l.addBlockEntry? rest
  else if c = '?' ∧ (l.inFlow ∨ atWhite rest) then addOne? l.addKey? rest
  else if c = ':' ∧ (l.inFlow ∨ atWhite rest) then addOne? l.addValue? rest
  else if c = '*' then
    addReading? l <| (readName? (l.mark.right 1) rest).map fun reading =>
      { reading with value := .reference reading.value }
  else if c = '&' then
    addReading? l <| (readName? (l.mark.right 1) rest).map fun reading =>
      { reading with value := .anchor reading.value }
  else if c = '!' then addReading? l (readTag? l.inFlow l.mark rest)
  else if (c = '|' ∨ c = '>') ∧ !l.inFlow then addBlock? l (c = '|') rest
  else if c = '\'' ∨ c = '"' then addQuoted? l (c = '\'') rest
  else if beginsPlain l.inFlow c rest then addPlain? l text
  else none

def addEnd? (l : Layout) : Option Layout := do
  let mark := if l.mark.column = 0 then l.mark else ⟨l.mark.index, l.mark.line + 1, 0⟩
  let l ← { l with mark := mark }.endBlocks?
  some (l.add .streamEnd)

def addTokens? : Nat → Layout → List Char → Option Layout
  | 0, _, _ => none
  | rounds + 1, l, text => do
    let (l, text) := skipToToken l false text
    let l ← l.dropStaleKeys?
    let l := l.closeBlocks l.column
    match text with
    | [] => addEnd? l
    | c :: rest =>
      let (l, rest) ← addToken? l c rest
      addTokens? rounds l rest

def tokens? (text : List Char) : Option (List Token) :=
  if text.all isAllowed then
    let text := unifyBreaks text
    (addTokens? (text.length + 1) .start text).map fun l => l.tokens.toList
  else none

end ParamGrid.Yaml
