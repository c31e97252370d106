import ParamGrid.Yaml.Mark
import ParamGrid.Yaml.Token

set_option autoImplicit false

namespace ParamGrid.Yaml

structure KeyStart where
  required : Bool
  place : Nat
  mark : Mark

structure Layout where
  mark : Mark
  depth : Nat
  indent : Int
  outer : List Int
  keyAllowed : Bool
  keyStart : Option KeyStart
  outerKeyStarts : List (Option KeyStart)
  tokens : Array Token

namespace Layout

def start : Layout := ⟨.start, 0, -1, [], true, none, [], #[]⟩

def inFlow (l : Layout) : Bool :=
  l.depth ≠ 0

def column (l : Layout) : Int :=
  l.mark.column

def add (l : Layout) (t : Token) : Layout :=
  { l with tokens := l.tokens.push t }

def insert (l : Layout) (place : Nat) (t : Token) : Layout :=
  { l with tokens := l.tokens.take place ++ #[t] ++ l.tokens.drop place }

def KeyStart.isStale (k : KeyStart) (mark : Mark) : Bool :=
  k.mark.line < mark.line || k.mark.index + 1024 < mark.index

def dropStale? (mark : Mark) : Option KeyStart → Option (Option KeyStart)
  | none => some none
  | some k =>
    if KeyStart.isStale k mark then (if k.required then none else some none) else some (some k)

def dropStaleKeys? (l : Layout) : Option Layout := do
  let keyStart ← dropStale? l.mark l.keyStart
  let outerKeyStarts ← l.outerKeyStarts.mapM (dropStale? l.mark)
  some { l with keyStart := keyStart, outerKeyStarts := outerKeyStarts }

def dropKey? (l : Layout) : Option Layout :=
  if l.keyStart.any KeyStart.required then none else some { l with keyStart := none }

def saveKey? (l : Layout) : Option Layout :=
  if l.keyAllowed then do
    let l ← l.dropKey?
    let required := !l.inFlow && l.indent = l.column
    some { l with keyStart := some ⟨required, l.tokens.size, l.mark⟩ }
  else some l

def closeBlocks (l : Layout) (column : Int) : Layout :=
  if l.inFlow then l
  else
    let closed := (l.indent :: l.outer).takeWhile (column < ·)
    match (l.indent :: l.outer).drop closed.length with
    | indent :: outer =>
      { l with
        indent := indent
        outer := outer
        tokens := l.tokens ++ Array.replicate closed.length Token.blockEnd }
    | [] => l

def openBlock (l : Layout) (column : Int) (place : Nat) (t : Token) : Layout :=
  if l.inFlow ∨ column ≤ l.indent then l
  else { l.insert place t with indent := column, outer := l.indent :: l.outer }

def openBrackets (l : Layout) : Layout :=
  { l with
    depth := l.depth + 1
    keyStart := none
    outerKeyStarts := l.keyStart :: l.outerKeyStarts }

def closeBrackets (l : Layout) : Layout :=
  match l.outerKeyStarts with
  | keyStart :: outer =>
    { l with depth := l.depth - 1, keyStart := keyStart, outerKeyStarts := outer }
  | [] => l

def addMark (l : Layout) (width : Nat) (t : Token) : Layout :=
  { l.add t with mark := l.mark.right width }

def endBlocks? (l : Layout) : Option Layout := do
  let l ← (l.closeBlocks (-1)).dropKey?
  some { l with keyAllowed := false }

def addBlockEntry? (l : Layout) : Option Layout := do
  if !l.inFlow && !l.keyAllowed then none
  else
    let l ← (l.openBlock l.column l.tokens.size .blockSequence).dropKey?
    some ({ l with keyAllowed := true }.addMark 1 .blockEntry)

def addKey? (l : Layout) : Option Layout := do
  if !l.inFlow && !l.keyAllowed then none
  else
    let l ← (l.openBlock l.column l.tokens.size .blockMapping).dropKey?
    some ({ l with keyAllowed := !l.inFlow }.addMark 1 .key)

def addValue? (l : Layout) : Option Layout :=
  match l.keyStart with
  | some k =>
    let l := (l.insert k.place .key).openBlock k.mark.column k.place .blockMapping
    some ({ l with keyStart := none, keyAllowed := false }.addMark 1 .value)
  | none =>
    if !l.inFlow && !l.keyAllowed then none
    else
      let l := l.openBlock l.column l.tokens.size .blockMapping
      some ({ l with keyAllowed := !l.inFlow }.addMark 1 .value)

def addOpening? (l : Layout) (t : Token) : Option Layout := do
  let l ← l.saveKey?
  some ({ l.openBrackets with keyAllowed := true }.addMark 1 t)

def addClosing? (l : Layout) (t : Token) : Option Layout := do
  let l ← l.dropKey?
  some ({ l.closeBrackets with keyAllowed := false }.addMark 1 t)

def addFlowEntry? (l : Layout) : Option Layout := do
  let l ← l.dropKey?
  some ({ l with keyAllowed := true }.addMark 1 .flowEntry)

end Layout

end ParamGrid.Yaml
