import ParamGrid.Filter.Fault

set_option autoImplicit false

namespace ParamGrid.Filter

inductive Pending where
  | opened (span : Span)
  | operand (filter : Filter) (span : Span)
  | joining (connective : Connective) (left : Filter) (span : Span)
  deriving DecidableEq, Repr

structure Name where
  chars : List Char
  span : Span
  deriving DecidableEq, Repr

def Name.text (n : Name) : String :=
  String.ofList n.chars

structure Scan where
  stack : List Pending
  name : Option Name
  offset : Nat
  rest : List Char
  deriving DecidableEq, Repr

def Scan.start (source : List Char) : Scan :=
  ⟨[], none, 0, source⟩

def isDelimiter (c : Char) : Bool :=
  c = ' ' || c = '(' || c = ')' || c = '=' || c = '!'

def maxPosition : Nat := UInt64.size - 1

def digitsValue (digits : List Char) : Nat :=
  Nat.ofDigitChars 10 digits 0

def connectiveAt? : List Char → Option (Connective × List Char)
  | 'A' :: 'N' :: 'D' :: rest => some (.and, rest)
  | 'O' :: 'R' :: rest => some (.or, rest)
  | _ => none

def push (filter : Filter) (span : Span) : List Pending → Except Fault (List Pending)
  | [] => .ok [.operand filter span]
  | .opened opening :: below => .ok (.operand filter span :: .opened opening :: below)
  | .joining connective left leftSpan :: below =>
    push (.join connective left filter) (leftSpan.through span) below
  | .operand .. :: _ => .error ⟨.operandAfterOperand, span⟩

def connect (connective : Connective) (span : Span) : List Pending → Except Fault (List Pending)
  | .operand left leftSpan :: below =>
    .ok (.joining connective left (leftSpan.through span) :: below)
  | .opened _ :: _ => .error ⟨.connectiveAfterOpening connective, span⟩
  | .joining pending .. :: _ => .error ⟨.connectiveAfterConnective connective pending, span⟩
  | [] => .error ⟨.connectiveWithoutLeft connective, span⟩

def close (span : Span) : List Pending → Except Fault (List Pending)
  | .operand inner _ :: .opened opening :: below => push inner (opening.through span) below
  | .operand .. :: _ => .error ⟨.unmatchedClosing, span⟩
  | .opened _ :: _ => .error ⟨.emptyGroup, span⟩
  | .joining connective _ leftSpan :: _ =>
    .error ⟨.connectiveWithoutRight connective, .point leftSpan.stop⟩
  | [] => .error ⟨.unmatchedClosing, span⟩

def requireNoName (name : Option Name) (span : Span) : Except Fault Unit :=
  match name with
  | none => .ok ()
  | some n => .error ⟨.nameNotCompared n.text, span⟩

def readPosition (offset : Nat) (rest : List Char) : Except Fault (Nat × Nat × List Char) :=
  let digits := rest.takeWhile Char.isDigit
  let stop := offset + digits.length
  if digits = [] then .error ⟨.missingPosition, .point offset⟩
  else if maxPosition < digitsValue digits then
    .error ⟨.positionTooLarge (String.ofList digits), ⟨offset, stop⟩⟩
  else .ok (digitsValue digits, stop, rest.dropWhile Char.isDigit)

def compareName (names : List String) (comparator : Comparator) (s : Scan) (rest : List Char) :
    Except Fault Scan :=
  match s.name with
  | none =>
    .error ⟨.comparatorWithoutName comparator, .ofChar s.offset comparator.mark⟩
  | some name =>
    match rest with
    | [] => .error ⟨.comparatorCutShort comparator, .point (s.offset + 1)⟩
    | c :: rest =>
      if c ≠ '=' then .error ⟨.comparatorCutShort comparator, .ofChar (s.offset + 1) c⟩
      else
        match names.idxOf? name.text with
        | none => .error ⟨.unknownDimension name.text, name.span⟩
        | some dimension =>
          match readPosition (s.offset + 2) rest with
          | .error fault => .error fault
          | .ok (position, stop, rest) =>
            match push (.compare dimension comparator position) ⟨name.span.start, stop⟩ s.stack with
            | .error fault => .error fault
            | .ok stack => .ok ⟨stack, none, stop, rest⟩

def readWord (s : Scan) (c : Char) (rest : List Char) : Except Fault Scan :=
  match s.name with
  | some name => .error ⟨.nameAlreadyEnded name.text, .ofChar s.offset c⟩
  | none =>
    match connectiveAt? (c :: rest) with
    | some (connective, after) =>
      let stop := s.offset + connective.word.length
      match connect connective ⟨s.offset, stop⟩ s.stack with
      | .error fault => .error fault
      | .ok stack => .ok ⟨stack, none, stop, after⟩
    | none =>
      let chars := c :: rest.takeWhile fun d => !isDelimiter d
      let stop := s.offset + byteLength chars
      let name : Name := ⟨chars, ⟨s.offset, stop⟩⟩
      .ok ⟨s.stack, some name, stop, rest.dropWhile fun d => !isDelimiter d⟩

def step (names : List String) (s : Scan) (c : Char) (rest : List Char) : Except Fault Scan :=
  match c with
  | ' ' => .ok { s with offset := s.offset + 1, rest := rest }
  | '(' =>
    match requireNoName s.name (.ofChar s.offset c) with
    | .error fault => .error fault
    | .ok () =>
      .ok ⟨.opened (.ofChar s.offset c) :: s.stack, none, s.offset + 1, rest⟩
  | ')' =>
    match requireNoName s.name (.ofChar s.offset c) with
    | .error fault => .error fault
    | .ok () =>
      match close (.ofChar s.offset c) s.stack with
      | .error fault => .error fault
      | .ok stack => .ok ⟨stack, none, s.offset + 1, rest⟩
  | '=' => compareName names .equal s rest
  | '!' => compareName names .notEqual s rest
  | _ => readWord s c rest

theorem length_connectiveAt? {text after : List Char} {connective : Connective}
    (h : connectiveAt? text = some (connective, after)) : after.length < text.length := by
  unfold connectiveAt? at h
  split at h
  · simp only [Option.some.injEq, Prod.mk.injEq] at h
    simp only [h.2.symm, List.length_cons]
    omega
  · simp only [Option.some.injEq, Prod.mk.injEq] at h
    simp only [h.2.symm, List.length_cons]
    omega
  · simp at h

theorem length_readPosition {offset position stop : Nat} {rest after : List Char}
    (h : readPosition offset rest = .ok (position, stop, after)) : after.length ≤ rest.length := by
  unfold readPosition at h
  dsimp only at h
  split at h
  · simp at h
  · split at h
    · simp at h
    · simp only [Except.ok.injEq, Prod.mk.injEq] at h
      rw [← h.2.2]
      exact (List.dropWhile_sublist _).length_le

theorem length_compareName {names : List String} {comparator : Comparator} {s t : Scan}
    {rest : List Char} (h : compareName names comparator s rest = .ok t) :
    t.rest.length ≤ rest.length := by
  unfold compareName at h
  split at h
  · simp at h
  · split at h
    · simp at h
    · split at h
      · simp at h
      · split at h
        · simp at h
        · split at h
          · simp at h
          next read =>
            split at h
            · simp at h
            · have shorter := length_readPosition read
              simp only [Except.ok.injEq] at h
              rw [← h]
              simp only [List.length_cons]
              omega

theorem length_readWord {s t : Scan} {c : Char} {rest : List Char}
    (h : readWord s c rest = .ok t) : t.rest.length ≤ rest.length := by
  unfold readWord at h
  split at h
  · simp at h
  · split at h
    next found =>
      have shorter := length_connectiveAt? found
      dsimp only at h
      split at h
      · simp at h
      · cases h
        simp only [List.length_cons] at shorter
        exact Nat.le_of_lt_succ shorter
    · simp only [Except.ok.injEq] at h
      rw [← h]
      exact (List.dropWhile_sublist _).length_le

-- Every step reads a character at least, so reading ends.
theorem length_step {names : List String} {s t : Scan} {c : Char} {rest : List Char}
    (h : step names s c rest = .ok t) : t.rest.length ≤ rest.length := by
  unfold step at h
  split at h
  · simp only [Except.ok.injEq] at h
    simp [← h]
  · split at h
    · simp at h
    · simp only [Except.ok.injEq] at h
      simp [← h]
  · split at h
    · simp at h
    · split at h
      · simp at h
      · simp only [Except.ok.injEq] at h
        simp [← h]
  · exact length_compareName h
  · exact length_compareName h
  · exact length_readWord h

def run (names : List String) (s : Scan) : Except Fault Scan :=
  match _ahead : s.rest with
  | [] => .ok s
  | c :: rest =>
    match _stepped : step names s c rest with
    | .error fault => .error fault
    | .ok t => run names t
termination_by s.rest.length
decreasing_by
  have shorter := length_step _stepped
  simp only [_ahead, List.length_cons]
  omega

def openingSpan? : Pending → Option Span
  | .opened span => some span
  | _ => none

-- What the stack holds when the text has ended, its bytes being `stop` in number. A group that is
-- still open is reported at its outermost parenthesis.
def finish (stop : Nat) (stack : List Pending) : Except Fault Filter :=
  match stack with
  | [] => .error ⟨.noOperand, ⟨0, stop⟩⟩
  | [.operand root _] => .ok root
  | [.opened span] => .error ⟨.unclosedGroup, span⟩
  | [.joining connective _ span] =>
    .error ⟨.connectiveWithoutRight connective, .point span.stop⟩
  | stack =>
    match stack.reverse.findSome? openingSpan? with
    | some span => .error ⟨.unclosedGroup, span⟩
    | none => .error ⟨.cutShort, .point stop⟩

def finishScan (s : Scan) : Except Fault Filter :=
  match s.name with
  | some name => .error ⟨.nameAtEnd name.text, name.span⟩
  | none => finish s.offset s.stack

def compileChars (names : List String) (source : List Char) : Except Fault (Option Filter) :=
  if source = [] then .ok none
  else
    match run names (.start source) with
    | .error fault => .error fault
    | .ok s =>
      match finishScan s with
      | .error fault => .error fault
      | .ok f => .ok (some f)

end ParamGrid.Filter
