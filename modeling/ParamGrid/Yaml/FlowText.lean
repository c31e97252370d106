import ParamGrid.Yaml.Mark

set_option autoImplicit false

namespace ParamGrid.Yaml

structure Gap where
  blanks : List Char
  broken : Bool
  firstBreak : Option Char
  moreBreaks : List Char

namespace Gap

def none : Gap := ⟨[], false, Option.none, []⟩

def joined : Gap := ⟨[], true, Option.none, []⟩

def add (g : Gap) (c : Char) : Gap :=
  if isBreak c then
    if g.broken then { g with moreBreaks := c :: g.moreBreaks }
    else ⟨[], true, some c, []⟩
  else if g.broken then g
  else { g with blanks := c :: g.blanks }

def fold (g : Gap) : List Char :=
  if g.broken then
    match g.firstBreak with
    | some '\n' => if g.moreBreaks = [] then [' '] else g.moreBreaks.reverse
    | some c => c :: g.moreBreaks.reverse
    | Option.none => g.moreBreaks.reverse
  else g.blanks.reverse

end Gap

def endsPlain (inFlow : Bool) (c : Char) (rest : List Char) : Bool :=
  (c = ':' && atWhite rest) || (inFlow && isFlowIndicator c)

def isStrayColon (inFlow : Bool) (c : Char) (rest : List Char) : Bool :=
  inFlow && c = ':' && match rest with
    | d :: _ => isFlowIndicator d || d = '?'
    | [] => false

def plainStopsAt (inFlow : Bool) (indent : Int) (mark : Mark) (c : Char) (rest : List Char) : Bool :=
  (!inFlow && mark.column < indent) || (mark.column = 0 && atDocumentMarker (c :: rest)) || c = '#'

structure Plain where
  text : List Char
  broken : Bool

def readPlain? (inFlow : Bool) (indent : Int) (done : List Char) (gap : Option Gap) (mark : Mark) :
    List Char → Option (Reading Plain)
  | [] => some ⟨⟨done.reverse, gap.any Gap.broken⟩, mark, []⟩
  | c :: rest =>
    if isWhite c then
      let g := gap.getD .none
      if c = '\t' ∧ g.broken ∧ mark.column < indent then none
      else readPlain? inFlow indent done (some (g.add c)) (mark.after c) rest
    else if gap.isSome && plainStopsAt inFlow indent mark c rest || endsPlain inFlow c rest then
      some ⟨⟨done.reverse, gap.any Gap.broken⟩, mark, c :: rest⟩
    else if isStrayColon inFlow c rest then none
    else
      let white := (gap.getD .none).fold
      readPlain? inFlow indent (c :: (white.reverse ++ done)) none (mark.after c) rest

inductive QuotedState where
  | word
  | gap (g : Gap)
  | escape
  | digits (left value : Nat)
  | quote

def escapedChar? : Char → Option Char
  | '0' => some '\x00'
  | 'a' => some '\x07'
  | 'b' => some '\x08'
  | 't' | '\t' => some '\t'
  | 'n' => some '\n'
  | 'v' => some '\x0b'
  | 'f' => some '\x0c'
  | 'r' => some '\r'
  | 'e' => some '\x1b'
  | ' ' => some ' '
  | '"' => some '"'
  | '/' => some '/'
  | '\\' => some '\\'
  | 'N' => some '\u0085'
  | '_' => some '\u00a0'
  | 'L' => some '\u2028'
  | 'P' => some '\u2029'
  | _ => none

def escapedDigits? : Char → Option Nat
  | 'x' => some 2
  | 'u' => some 4
  | 'U' => some 8
  | _ => none

def hexValue? (c : Char) : Option Nat :=
  if c.isDigit then some (c.toNat - '0'.toNat)
  else if 'a' ≤ c ∧ c ≤ 'f' then some (c.toNat - 'a'.toNat + 10)
  else if 'A' ≤ c ∧ c ≤ 'F' then some (c.toNat - 'A'.toNat + 10)
  else none

def charOfNumber? (n : Nat) : Option Char :=
  if h : n.isValidChar then some (Char.ofNatAux n h) else none

def readQuotedWord (single : Bool) (c : Char) : Option (List Char × QuotedState) :=
  if isWhite c then some ([], .gap (Gap.none.add c))
  else if single then
    if c = '\'' then some ([], .quote) else some ([c], .word)
  else if c = '"' then none
  else if c = '\\' then some ([], .escape)
  else some ([c], .word)

def readQuoted? (single : Bool) (done : List Char) (state : QuotedState) (mark : Mark) :
    List Char → Option (Reading (List Char))
  | [] =>
    match state with
    | .quote => some ⟨done.reverse, mark, []⟩
    | _ => none
  | c :: rest =>
    let goOn := fun (done : List Char) (found : Option (List Char × QuotedState)) =>
      match found with
      | none => some ⟨done.reverse, mark.after c, rest⟩
      | some (added, next) => readQuoted? single (added ++ done) next (mark.after c) rest
    match state with
    | .word => goOn done (readQuotedWord single c)
    | .gap g =>
      if isWhite c then goOn done (some ([], .gap (g.add c)))
      else if mark.column = 0 ∧ atDocumentMarker (c :: rest) then none
      else goOn (g.fold.reverse ++ done) (readQuotedWord single c)
    | .escape =>
      if isBreak c then goOn done (some ([], .gap .joined))
      else
        match escapedChar? c, escapedDigits? c with
        | some d, _ => goOn done (some ([d], .word))
        | none, some left => goOn done (some ([], .digits left 0))
        | none, none => none
    | .digits left value =>
      match hexValue? c with
      | none => none
      | some digit =>
        let value := 16 * value + digit
        if 1 < left then goOn done (some ([], .digits (left - 1) value))
        else
          match charOfNumber? value with
          | some d => goOn done (some ([d], .word))
          | none => none
    | .quote =>
      if c = '\'' then goOn done (some (['\''], .word))
      else some ⟨done.reverse, mark, c :: rest⟩

end ParamGrid.Yaml
