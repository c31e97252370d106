import ParamGrid.Proofs.Filter.Parsing

set_option autoImplicit false

namespace ParamGrid.Filter

-- The whole text is one operand, so it may stand on the right of a connective as well.
def Operand (names : List String) (text : List Char) (f : Filter) : Prop :=
  ∃ tokens, Lexes text tokens ∧ Derives names .operand tokens f

def joinedChars (connective : Connective) (left right : List Char) : List Char :=
  left ++ ' ' :: (connective.word ++ ' ' :: right)

def grouped (text : List Char) : List Char :=
  '(' :: (text ++ [')'])

theorem isDelimiter_digit {c : Char} (digit : c.isDigit = true) : isDelimiter c = false := by
  cases delimiter : isDelimiter c with
  | false => rfl
  | true =>
    simp only [isDelimiter, Bool.or_eq_true, decide_eq_true_eq] at delimiter
    rcases delimiter with (((rfl | rfl) | rfl) | rfl) | rfl <;> cases digit

theorem Stops.cons {p : Char → Bool} {c : Char} (outside : p c = false) (rest : List Char) :
    Stops p (c :: rest) := by
  rintro _ ⟨rfl⟩
  exact outside

theorem Stops.append {p : Char → Bool} {text rest : List Char} (one : Stops p text)
    (other : Stops p rest) : Stops p (text ++ rest) := by
  cases text with
  | nil => exact other
  | cons c text => exact .cons (one c rfl) _

theorem Stops.digits {rest : List Char} (stops : Stops (fun c => !isDelimiter c) rest) :
    Stops Char.isDigit rest := by
  intro c first
  have delimiter : isDelimiter c = true := by simpa using stops c first
  cases digit : c.isDigit with
  | false => rfl
  | true => simp [isDelimiter_digit digit] at delimiter

theorem Token.Fits.append {token : Token} {text rest : List Char} (fits : token.Fits text)
    (stops : Stops (fun c => !isDelimiter c) rest) : token.Fits (text ++ rest) := by
  cases token with
  | name chars =>
    obtain ⟨nonempty, inside, free, ends⟩ := fits
    exact ⟨nonempty, inside, free, ends.append stops⟩
  | comparison comparator digits =>
    obtain ⟨nonempty, inside, ends⟩ := fits
    exact ⟨nonempty, inside, ends.append stops.digits⟩
  | opening | closing | connective => trivial

-- Only the last token of the text looks at what comes behind it, and the delimiter stops it.
theorem Lexes.append {text rest : List Char} {tokens after : List Token} (one : Lexes text tokens)
    (stops : Stops (fun c => !isDelimiter c) rest) (other : Lexes rest after) :
    Lexes (text ++ rest) (tokens ++ after) := by
  induction one with
  | nil => exact other
  | space _ ih => exact .space ih
  | token fits _ ih =>
    rw [List.append_assoc]
    exact .token (fits.append stops) ih

theorem Operand.sentence {names : List String} {text : List Char} {f : Filter}
    (operand : Operand names text f) : Sentence names text f := by
  obtain ⟨tokens, lexed, derived⟩ := operand
  exact ⟨tokens, lexed, .single derived⟩

theorem Sentence.grouped {names : List String} {text : List Char} {f : Filter}
    (sentence : Sentence names text f) : Operand names (Filter.grouped text) f := by
  obtain ⟨tokens, lexed, derived⟩ := sentence
  have closing : Lexes [')'] [.closing] := @Lexes.token .closing [] [] trivial .nil
  have inner := lexed.append (.cons rfl []) closing
  exact ⟨_, @Lexes.token .opening _ _ trivial inner, .group derived⟩

theorem Sentence.joined {names : List String} {left right : List Char} {f g : Filter}
    (connective : Connective) (one : Sentence names left f) (other : Operand names right g) :
    Sentence names (joinedChars connective left right) (.join connective f g) := by
  obtain ⟨before, lexedLeft, derivedLeft⟩ := one
  obtain ⟨after, lexedRight, derivedRight⟩ := other
  have behind : Lexes (connective.word ++ ' ' :: right) (.connective connective :: after) :=
    @Lexes.token (.connective connective) _ _ trivial (.space lexedRight)
  exact ⟨_, lexedLeft.append (.cons rfl _) (.space behind),
    .join connective derivedLeft derivedRight⟩

end ParamGrid.Filter
