import ParamGrid.Filter.Basic
import ParamGrid.Span

set_option autoImplicit false

namespace ParamGrid.Filter

inductive Cause where
  | nameNotCompared (name : String)
  | nameAlreadyEnded (name : String)
  | comparatorWithoutName (comparator : Comparator)
  | comparatorCutShort (comparator : Comparator)
  | unknownDimension (name : String)
  | missingPosition
  | positionTooLarge (digits : String)
  | operandAfterOperand
  | connectiveAfterOpening (connective : Connective)
  | connectiveAfterConnective (connective pending : Connective)
  | connectiveWithoutLeft (connective : Connective)
  | connectiveWithoutRight (connective : Connective)
  | unmatchedClosing
  | emptyGroup
  | nameAtEnd (name : String)
  | unclosedGroup
  | cutShort
  | noOperand
  deriving DecidableEq, Repr

structure Fault where
  cause : Cause
  span : Span
  deriving DecidableEq, Repr

def Comparator.quoted (c : Comparator) : String :=
  String.ofList ['\'', c.mark, '\'']

def Cause.message : Cause → String
  | nameNotCompared name => "symbol '" ++ name ++ "' is not followed by a comparison operator"
  | nameAlreadyEnded name => "the symbol '" ++ name ++ "' has already been closed"
  | comparatorWithoutName c => Comparator.quoted c ++ " without a preceding dimension name"
  | comparatorCutShort c => Comparator.quoted c ++ " should be followed by '='"
  | unknownDimension name => "dimension '" ++ name ++ "' not found"
  | missingPosition => "comparison is missing a value position"
  | positionTooLarge digits => "value position " ++ digits ++ " is out of range"
  | operandAfterOperand => "consecutive expressions in filter"
  | connectiveAfterOpening c => c.text ++ " cannot follow an opening parenthesis"
  | connectiveAfterConnective c pending =>
    c.text ++ " follows " ++ pending.text ++ " without a right-hand operand"
  | connectiveWithoutLeft c => "there is no left-hand expression for " ++ c.text
  | connectiveWithoutRight c => c.text ++ " is missing its right-hand operand"
  | unmatchedClosing => "closing parenthesis does not match an opening one"
  | emptyGroup => "empty parentheses are not allowed"
  | nameAtEnd name => "trailing symbol '" ++ name ++ "' is not part of a comparison"
  | unclosedGroup => "unclosed parenthesis"
  | cutShort => "filter is prematurely terminated"
  | noOperand => "filter has no expressions"

def Cause.help? : Cause → Option String
  | nameAlreadyEnded _ =>
    some "dimension names cannot contain spaces; check for a missing operator"
  | missingPosition => some "positions are zero-based indexes into the dimension's values"
  | operandAfterOperand => some "join the expressions with AND or OR"
  | nameAtEnd _ => some "compare the dimension with a position, e.g. `Size==0`"
  | _ => none

end ParamGrid.Filter
