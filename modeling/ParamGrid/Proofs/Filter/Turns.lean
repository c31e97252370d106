import ParamGrid.Proofs.Filter.Parsing
import ParamGrid.Proofs.Text.Place

set_option autoImplicit false

namespace ParamGrid.Filter

structure Reader where
  stack : List Pending
  symbol : List Char
  span : Span
  closed : Bool
  offset : Nat
  rest : List Char
  deriving DecidableEq, Repr

namespace Reader

def start (source : List Char) : Reader :=
  ⟨[], [], ⟨0, 0⟩, false, 0, source⟩

def name (r : Reader) : Option Name :=
  if r.symbol = [] then none else some ⟨r.symbol, r.span⟩

def scan (r : Reader) : Scan :=
  ⟨r.stack, r.name, r.offset, r.rest⟩

def clear (r : Reader) (s : Scan) : Reader :=
  { r with stack := s.stack, symbol := [], closed := false, offset := s.offset, rest := s.rest }

def keyword? (r : Reader) (c : Char) (rest : List Char) : Option (Connective × List Char) :=
  if r.symbol = [] then connectiveAt? (c :: rest) else none

def grow (r : Reader) (c : Char) (rest : List Char) : Except Fault Reader :=
  if r.closed then .error ⟨.nameAlreadyEnded (String.ofList r.symbol), .ofChar r.offset c⟩
  else
    let stop := r.offset + c.utf8Size
    let start := if r.symbol = [] then r.offset else r.span.start
    .ok { r with symbol := r.symbol ++ [c], span := ⟨start, stop⟩, offset := stop, rest := rest }

def first (r : Reader) (c : Char) (rest : List Char) : Reader :=
  { r with
    symbol := [c], span := .ofChar r.offset c, closed := false, offset := r.offset + c.utf8Size,
    rest := rest }

def passSpace (r : Reader) (rest : List Char) : Reader :=
  { r with closed := r.closed || !r.symbol.isEmpty, offset := r.offset + 1, rest := rest }

end Reader

def turnWord (r : Reader) (c : Char) (rest : List Char) : Except Fault Reader :=
  match r.keyword? c rest with
  | some (connective, after) =>
    let stop := r.offset + connective.word.length
    match connect connective ⟨r.offset, stop⟩ r.stack with
    | .error fault => .error fault
    | .ok stack => .ok (r.clear ⟨stack, none, stop, after⟩)
  | none => r.grow c rest

def turn (names : List String) (r : Reader) (c : Char) (rest : List Char) : Except Fault Reader :=
  if c = ' ' then .ok (r.passSpace rest)
  else if isDelimiter c then
    match step names r.scan c rest with
    | .error fault => .error fault
    | .ok s => .ok (r.clear s)
  else turnWord r c rest

inductive Reached (names : List String) (source : List Char) : Reader → Prop where
  | start : Reached names source (.start source)
  | next {r t : Reader} {c : Char} {rest : List Char} :
      Reached names source r → r.rest = c :: rest → turn names r c rest = .ok t →
      Reached names source t

def LoopEnds (names : List String) (source : List Char) : Except Fault Scan → Prop
  | .ok s => ∃ r, Reached names source r ∧ r.rest = [] ∧ r.scan = s
  | .error fault =>
    ∃ r c rest, Reached names source r ∧ r.rest = c :: rest ∧ turn names r c rest = .error fault

def Reader.Rests (r : Reader) : Prop :=
  if r.symbol = [] then r.closed = false
  else r.closed = true ∨ Stops (fun c => !isDelimiter c) r.rest

variable {names : List String} {source : List Char}

theorem step_unnamed {s t : Scan} {c : Char} {rest : List Char} (delimiter : isDelimiter c = true)
    (visible : c ≠ ' ') (stepped : step names s c rest = .ok t) : t.name = none := by
  rcases step_reads stepped with ⟨space, -⟩ | ⟨token, text, fits, reads⟩
  · exact absurd space visible
  · cases reads with
    | opening _ _ unnamed => exact unnamed
    | closing _ _ unnamed => exact unnamed
    | connective _ _ _ unnamed => exact unnamed
    | comparison _ _ unnamed => exact unnamed
    | name chars =>
      obtain ⟨nonempty, inside, -⟩ := fits
      obtain ⟨first, letters, rfl⟩ := List.exists_cons_of_ne_nil nonempty
      cases text
      rw [inside c List.mem_cons_self] at delimiter
      cases delimiter

theorem Reader.scan_clear (r : Reader) {s : Scan} (unnamed : s.name = none) :
    (r.clear s).scan = s := by
  cases s
  cases unnamed
  rfl

theorem Reached.behind_name {r : Reader} (reached : Reached names source r)
    (reading : r.symbol ≠ []) (going : r.closed = false) (stop : r.span.stop = r.offset) :
    ∃ t, Reached names source t ∧ t.Rests ∧
      t.scan =
        ⟨r.stack,
          some ⟨r.symbol ++ r.rest.takeWhile fun d => !isDelimiter d,
            ⟨r.span.start, r.offset + byteLength (r.rest.takeWhile fun d => !isDelimiter d)⟩⟩,
          r.offset + byteLength (r.rest.takeWhile fun d => !isDelimiter d),
          r.rest.dropWhile fun d => !isDelimiter d⟩ := by
  -- By induction on what is ahead: a delimiter ends the name, and any other character is one turn more.
  induction ahead : r.rest generalizing r with
  | nil =>
    refine ⟨r, reached, ?_, ?_⟩
    · simp [Reader.Rests, reading, Stops, ahead]
    · simp [Reader.scan, Reader.name, reading, ahead, byteLength, ← stop]
  | cons c rest ih =>
    by_cases delimiter : isDelimiter c = true
    · refine ⟨r, reached, ?_, ?_⟩
      · simp [Reader.Rests, reading, Stops, ahead, delimiter]
      · simp [Reader.scan, Reader.name, reading, ahead, byteLength, ← stop, delimiter]
    · have letter : isDelimiter c = false := by simpa using delimiter
      have visible : c ≠ ' ' := by
        rintro rfl
        cases letter
      have turned : turn names r c rest = .ok
          { r with
            symbol := r.symbol ++ [c]
            span := ⟨r.span.start, r.offset + c.utf8Size⟩
            offset := r.offset + c.utf8Size
            rest := rest } := by
        simp [turn, visible, letter, turnWord, Reader.keyword?, Reader.grow, reading, going]
      obtain ⟨t, later, rests, scan⟩ := ih (.next reached ahead turned) (by simp) going rfl rfl
      refine ⟨t, later, rests, ?_⟩
      rw [scan]
      simp [letter, byteLength, Nat.add_assoc]

theorem Reader.Rests.closed {r : Reader} {c : Char} {rest : List Char} (rests : r.Rests)
    (ahead : r.rest = c :: rest) (letter : isDelimiter c = false) :
    r.closed = !r.symbol.isEmpty := by
  unfold Reader.Rests at rests
  split at rests
  next empty => simp [empty, rests]
  next reading =>
    rcases rests with closed | stops
    · simp [reading, closed]
    · have delimiter := stops c (by rw [ahead]; rfl)
      simp [letter] at delimiter

theorem readWord_of_named {s t : Scan} {c : Char} {rest : List Char} (read : readWord s c rest = .ok t)
    (named : t.name ≠ none) :
    t =
      ⟨s.stack,
        some ⟨c :: rest.takeWhile fun d => !isDelimiter d,
          ⟨s.offset, s.offset + byteLength (c :: rest.takeWhile fun d => !isDelimiter d)⟩⟩,
        s.offset + byteLength (c :: rest.takeWhile fun d => !isDelimiter d),
        rest.dropWhile fun d => !isDelimiter d⟩ := by
  unfold readWord at read
  split at read
  · cases read
  · split at read
    · dsimp only at read
      split at read
      · cases read
      · cases read
        exact absurd rfl named
    · cases read
      rfl

theorem Reader.Rests.turnWord_eq {r : Reader} {c : Char} {rest : List Char} (rests : r.Rests)
    (ahead : r.rest = c :: rest) (letter : isDelimiter c = false) :
    turnWord r c rest =
      match readWord r.scan c rest with
      | .error fault => .error fault
      | .ok s => .ok (if s.name = none then r.clear s else r.first c rest) := by
  have closed := rests.closed ahead letter
  by_cases empty : r.symbol = []
  · cases found : connectiveAt? (c :: rest) with
    | none =>
      simp [turnWord, readWord, keyword?, grow, scan, name, first, Span.ofChar, empty, found, closed]
    | some word =>
      cases connected : connect word.1 ⟨r.offset, r.offset + word.1.word.length⟩ r.stack with
      | error fault => simp [turnWord, readWord, keyword?, scan, name, empty, found, connected]
      | ok stack => simp [turnWord, readWord, keyword?, scan, name, empty, found, connected]
  · simp [turnWord, readWord, keyword?, grow, scan, name, empty, closed, Name.text]

theorem turn_fault {r : Reader} {c : Char} {rest : List Char} {fault : Fault} (rests : r.Rests)
    (ahead : r.rest = c :: rest) (refused : step names r.scan c rest = .error fault) :
    turn names r c rest = .error fault := by
  by_cases space : c = ' '
  · subst space
    cases refused
  · by_cases delimiter : isDelimiter c = true
    · simp only [turn, space, delimiter, refused, if_false, if_true]
    · have letter : isDelimiter c = false := by simpa using delimiter
      rw [step_word names r.scan letter] at refused
      rw [turn, if_neg space, if_neg delimiter, rests.turnWord_eq ahead letter, refused]

theorem Reached.steps {r : Reader} {s : Scan} {c : Char} {rest : List Char}
    (reached : Reached names source r) (rests : r.Rests) (ahead : r.rest = c :: rest)
    (stepped : step names r.scan c rest = .ok s) :
    ∃ t, Reached names source t ∧ t.Rests ∧ t.scan = s := by
  by_cases space : c = ' '
  · subst space
    cases stepped
    refine ⟨r.passSpace rest, .next reached ahead rfl, ?_, rfl⟩
    unfold Reader.Rests at rests ⊢
    by_cases empty : r.symbol = [] <;> simp_all [Reader.passSpace]
  · by_cases delimiter : isDelimiter c = true
    · have turned : turn names r c rest = .ok (r.clear s) := by
        simp only [turn, space, delimiter, stepped, if_false, if_true]
      exact ⟨r.clear s, .next reached ahead turned, rfl,
        r.scan_clear (step_unnamed delimiter space stepped)⟩
    · have letter : isDelimiter c = false := by simpa using delimiter
      rw [step_word names r.scan letter] at stepped
      -- The word is a connective, which one turn reads, or a name, of which it reads a character.
      have turned : turn names r c rest = .ok (if s.name = none then r.clear s else r.first c rest) := by
        rw [turn, if_neg space, if_neg delimiter, rests.turnWord_eq ahead letter, stepped]
      by_cases unnamed : s.name = none
      · rw [if_pos unnamed] at turned
        exact ⟨r.clear s, .next reached ahead turned, rfl, r.scan_clear unnamed⟩
      · rw [if_neg unnamed] at turned
        obtain ⟨t, later, rests, scan⟩ :=
          (Reached.next reached ahead turned).behind_name (by simp [Reader.first]) rfl rfl
        refine ⟨t, later, rests, ?_⟩
        rw [scan, readWord_of_named stepped unnamed]
        simp [Reader.first, Reader.scan, byteLength, Span.ofChar, Nat.add_assoc]

theorem loopEnds_run : LoopEnds names source (run names (.start source)) := by
  have from_scan (s : Scan) (r : Reader) (reached : Reached names source r) (rests : r.Rests)
      (scan : r.scan = s) : LoopEnds names source (run names s) := by
    fun_induction run names s generalizing r with
    | case1 s ended =>
      subst scan
      exact ⟨r, reached, ended, rfl⟩
    | case2 s c rest ahead fault refused =>
      subst scan
      exact ⟨r, c, rest, reached, ahead, turn_fault rests ahead refused⟩
    | case3 s c rest ahead t stepped ih =>
      subst scan
      obtain ⟨u, later, rests, scan⟩ := reached.steps rests ahead stepped
      exact ih u later rests scan
  exact from_scan _ (.start source) .start rfl rfl

end ParamGrid.Filter
