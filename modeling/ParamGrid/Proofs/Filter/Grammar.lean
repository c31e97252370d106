import Mathlib.Data.List.Basic
import ParamGrid.Filter.Compile

set_option autoImplicit false

namespace ParamGrid.Filter

inductive Token where
  | opening
  | closing
  | connective (connective : Connective)
  | name (chars : List Char)
  | comparison (comparator : Comparator) (digits : List Char)
  deriving DecidableEq, Repr

def Stops (p : Char → Bool) (rest : List Char) : Prop :=
  ∀ c, rest.head? = some c → p c = false

def Token.chars : Token → List Char
  | opening => ['(']
  | closing => [')']
  | connective c => c.word
  | name chars => chars
  | comparison comparator digits => comparator.mark :: '=' :: digits

-- The token is spelled as it should be when `rest` stands behind it. A name and digits are as long
-- as they can be. A name does not start with the word of a connective, so that where a name could
-- start these letters are always read as the connective.
def Token.Fits : Token → List Char → Prop
  | name chars, rest =>
    chars ≠ [] ∧ (∀ c ∈ chars, isDelimiter c = false) ∧
      (∀ connective : Connective, ¬ connective.word <+: chars) ∧
      Stops (fun c => !isDelimiter c) rest
  | comparison _ digits, rest =>
    digits ≠ [] ∧ (∀ c ∈ digits, c.isDigit = true) ∧ Stops Char.isDigit rest
  | opening, _ | closing, _ | connective _, _ => True

inductive Lexes : List Char → List Token → Prop where
  | nil : Lexes [] []
  | space {rest : List Char} {tokens : List Token} :
      Lexes rest tokens → Lexes (' ' :: rest) tokens
  | token {token : Token} {rest : List Char} {tokens : List Token} :
      token.Fits rest → Lexes rest tokens → Lexes (token.chars ++ rest) (token :: tokens)

inductive Phrase where
  | operand
  | expression
  deriving DecidableEq, Repr

/-- The grammar, each phrase with its tree. An operand is a comparison or an expression in
parentheses; an expression is a chain of operands that the connectives between them join from left
to right. A name stands for the first dimension that has it. -/
inductive Derives (names : List String) : Phrase → List Token → Filter → Prop where
  | comparison {chars digits : List Char} {comparator : Comparator} {dimension : Nat} :
      names.idxOf? (String.ofList chars) = some dimension → digitsValue digits ≤ maxPosition →
      Derives names .operand [.name chars, .comparison comparator digits]
        (.compare dimension comparator (digitsValue digits))
  | group {tokens : List Token} {f : Filter} :
      Derives names .expression tokens f →
      Derives names .operand (.opening :: (tokens ++ [.closing])) f
  | single {tokens : List Token} {f : Filter} :
      Derives names .operand tokens f → Derives names .expression tokens f
  | join (connective : Connective) {left right : List Token} {f g : Filter} :
      Derives names .expression left f → Derives names .operand right g →
      Derives names .expression (left ++ .connective connective :: right) (.join connective f g)

def Sentence (names : List String) (text : List Char) (f : Filter) : Prop :=
  ∃ tokens, Lexes text tokens ∧ Derives names .expression tokens f

theorem Derives.tokens_ne_nil {names : List String} {phrase : Phrase} {tokens : List Token}
    {f : Filter} (derived : Derives names phrase tokens f) : tokens ≠ [] := by
  induction derived with
  | comparison => simp
  | group => simp
  | single _ ih => exact ih
  | join => simp

theorem Token.chars_ne_nil {token : Token} {rest : List Char} (fits : token.Fits rest) :
    token.chars ≠ [] := by
  cases token with
  | name => exact fits.1
  | connective c => cases c <;> simp [chars, Connective.word]
  | _ => simp [chars]

theorem Lexes.split_token {text : List Char} {token : Token} {tokens : List Token}
    (lexed : Lexes text (token :: tokens)) :
    ∃ blanks rest, text = List.replicate blanks ' ' ++ (token.chars ++ rest) ∧
      token.Fits rest ∧ Lexes rest tokens := by
  generalize all : token :: tokens = found at lexed
  induction lexed with
  | nil => cases all
  | space _ ih =>
    obtain ⟨blanks, rest, rfl, fits, lexed⟩ := ih all
    exact ⟨blanks + 1, rest, rfl, fits, lexed⟩
  | @token _ rest _ fits lexed =>
    cases all
    exact ⟨0, rest, rfl, fits, lexed⟩

theorem Lexes.eq_blanks {text : List Char} (lexed : Lexes text []) :
    ∃ blanks, text = List.replicate blanks ' ' := by
  generalize none : ([] : List Token) = found at lexed
  induction lexed with
  | nil => exact ⟨0, rfl⟩
  | space _ ih =>
    obtain ⟨blanks, rfl⟩ := ih none
    exact ⟨blanks + 1, rfl⟩
  | token => cases none

theorem Sentence.text_ne_nil {names : List String} {text : List Char} {f : Filter}
    (sentence : Sentence names text f) : text ≠ [] := by
  rintro rfl
  obtain ⟨tokens, lexed, derived⟩ := sentence
  cases tokens with
  | nil => exact derived.tokens_ne_nil rfl
  | cons token tokens =>
    obtain ⟨blanks, rest, split, fits, -⟩ := lexed.split_token
    have empty : token.chars = [] := by simp_all
    exact Token.chars_ne_nil fits empty

end ParamGrid.Filter
