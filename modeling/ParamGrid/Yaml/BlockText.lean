import ParamGrid.Yaml.Mark

set_option autoImplicit false

namespace ParamGrid.Yaml

inductive Chomping where
  | strip
  | clip
  | keep
  deriving DecidableEq

structure BlockHeader where
  chomping : Chomping
  increment : Option Nat

def chomping? : Char → Option Chomping
  | '+' => some .keep
  | '-' => some .strip
  | _ => none

def increment? (c : Char) : Option Nat :=
  if c.isDigit ∧ c ≠ '0' then some (c.toNat - '0'.toNat) else none

def readBlockHeader (text : List Char) : BlockHeader × List Char :=
  match text with
  | [] => (⟨.clip, none⟩, [])
  | c :: rest =>
    match chomping? c, increment? c with
    | some chomping, _ =>
      match rest with
      | d :: more =>
        match increment? d with
        | some n => (⟨chomping, some n⟩, more)
        | none => (⟨chomping, none⟩, rest)
      | [] => (⟨chomping, none⟩, [])
    | none, some n =>
      match rest with
      | d :: more =>
        match chomping? d with
        | some chomping => (⟨chomping, some n⟩, more)
        | none => (⟨.clip, some n⟩, rest)
      | [] => (⟨.clip, some n⟩, [])
    | none, none => (⟨.clip, none⟩, text)

structure BlockState where
  done : List Char
  indent : Option Nat
  deepest : Nat
  lastBreak : Option Char
  blankLines : List Char
  indented : Bool
  inLine : Bool

def BlockState.breaksBefore (s : BlockState) (literal : Bool) (c : Char) : List Char :=
  let lines := s.blankLines.reverse
  if !literal && s.lastBreak = some '\n' && !s.indented && !isBlank c then
    if lines = [] then [' '] else lines
  else s.lastBreak.toList ++ lines

def BlockState.beginLine (s : BlockState) (literal : Bool) (c : Char) : BlockState :=
  { s with
    done := c :: ((s.breaksBefore literal c).reverse ++ s.done)
    lastBreak := none
    blankLines := []
    indented := isBlank c
    inLine := true }

def BlockState.finish (s : BlockState) (chomping : Chomping) : List Char :=
  s.done.reverse ++
    match chomping with
    | .strip => []
    | .clip => s.lastBreak.toList
    | .keep => s.lastBreak.toList ++ s.blankLines.reverse

def readBlockLines? (literal : Bool) (chomping : Chomping) (least : Nat) (s : BlockState)
    (mark : Mark) : List Char → Option (Reading (List Char))
  | [] => some ⟨s.finish chomping, mark, []⟩
  | c :: rest =>
    if s.inLine then
      let next := if isBreak c then { s with lastBreak := some c, inLine := false }
        else { s with done := c :: s.done }
      readBlockLines? literal chomping least next (mark.after c) rest
    else
      let margin := s.indent.all (mark.column < ·)
      let deepest := max s.deepest mark.column
      if margin ∧ c = ' ' then
        readBlockLines? literal chomping least s (mark.after c) rest
      else if margin ∧ c = '\t' then none
      else if isBreak c then
        readBlockLines? literal chomping least
          { s with deepest := deepest, blankLines := c :: s.blankLines } (mark.after c) rest
      else
        let indent := s.indent.getD (max deepest least)
        if mark.column = indent then
          readBlockLines? literal chomping least
            ({ s with indent := some indent }.beginLine literal c) (mark.after c) rest
        else some ⟨s.finish chomping, mark, c :: rest⟩

def readBlock? (literal : Bool) (parent : Int) (mark : Mark) (text : List Char) :
    Option (Reading (List Char)) := do
  let (header, tail) := readBlockHeader text
  let (lineMark, lines) ← readLineEnd? (mark.right (text.length - tail.length)) tail
  let indent := header.increment.map fun n => parent.toNat + n
  readBlockLines? literal header.chomping (max (parent + 1) 1).toNat
    ⟨[], indent, 0, none, [], false, false⟩ lineMark lines

end ParamGrid.Yaml
