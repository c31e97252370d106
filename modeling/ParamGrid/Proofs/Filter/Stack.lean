import ParamGrid.Proofs.Filter.Diagnosis
import ParamGrid.Proofs.Filter.Turns

set_option autoImplicit false

namespace ParamGrid.Filter

-- The places of the parentheses that are open behind a text which starts at `offset`, the innermost one
-- first, where those in `opens` are open in front of it.
def openPlaces (offset : Nat) (opens : List Nat) : List Char → List Nat
  | [] => opens
  | c :: rest =>
    openPlaces (offset + c.utf8Size)
      (if c = '(' then offset :: opens else if c = ')' then opens.tail else opens) rest

/-- The parentheses on the stack stand at these places, and there is one right below each operand and
each connective that has anything below it. -/
inductive Stacked : List Nat → List Pending → Prop where
  | empty : Stacked [] []
  | opened {places : List Nat} {below : List Pending} (place : Nat) :
      Stacked places below → Stacked (place :: places) (.opened ⟨place, place + 1⟩ :: below)
  | operand {places : List Nat} {below : List Pending} (f : Filter) (span : Span) :
      Level below → Stacked places below → Stacked places (.operand f span :: below)
  | joining {places : List Nat} {below : List Pending} (connective : Connective) (left : Filter)
      (span : Span) :
      Level below → Stacked places below → Stacked places (.joining connective left span :: below)

def pushCounting (filter : Filter) (span : Span) : List Pending → Nat × Except Fault (List Pending)
  | [] => (0, .ok [.operand filter span])
  | .opened opening :: below => (0, .ok (.operand filter span :: .opened opening :: below))
  | .joining connective left leftSpan :: below =>
    let (again, result) :=
      pushCounting (.join connective left filter) (leftSpan.through span) below
    (again + 1, result)
  | .operand .. :: _ => (0, .error ⟨.operandAfterOperand, span⟩)

variable {names : List String} {source : List Char} {places : List Nat} {stack after : List Pending}

theorem openPlaces_append (offset : Nat) (opens : List Nat) (text more : List Char) :
    openPlaces offset opens (text ++ more) =
      openPlaces (offset + byteLength text) (openPlaces offset opens text) more := by
  induction text generalizing offset opens with
  | nil => rfl
  | cons c text ih => simp only [List.cons_append, openPlaces, ih, byteLength, Nat.add_assoc]

theorem openPlaces_of_plain (offset : Nat) (opens : List Nat) {text : List Char}
    (plain : '(' ∉ text ∧ ')' ∉ text) : openPlaces offset opens text = opens := by
  induction text generalizing offset with
  | nil => rfl
  | cons c text ih =>
    simp only [List.mem_cons, not_or] at plain
    obtain ⟨⟨opening, plainOpening⟩, closing, plainClosing⟩ := plain
    rw [openPlaces, if_neg (Ne.symm opening), if_neg (Ne.symm closing), ih _ ⟨plainOpening, plainClosing⟩]

theorem pushCounting_snd (f : Filter) (span : Span) (stack : List Pending) :
    (pushCounting f span stack).2 = push f span stack := by
  fun_induction push f span stack with
  | case3 f span connective left leftSpan below ih => exact ih
  | _ => rfl

theorem pushCounting_level (f : Filter) (span : Span) (level : Level stack) :
    (pushCounting f span stack).1 = 0 := by
  match stack, level with
  | [], _ => rfl
  | .opened _ :: _, _ => rfl

theorem Stacked.pushCounting_le (stacked : Stacked places stack) (f : Filter) (span : Span) :
    (pushCounting f span stack).1 ≤ 1 := by
  cases stacked with
  | joining connective left leftSpan level => simp [pushCounting, pushCounting_level _ _ level]
  | empty | opened | operand => exact Nat.zero_le 1

theorem Stacked.lower {above : List Pending} (stacked : Stacked places (above ++ stack)) :
    ∃ lower, Stacked lower stack := by
  induction above generalizing places with
  | nil => exact ⟨places, stacked⟩
  | cons entry above ih =>
    cases stacked with
    | opened _ stacked => exact ih stacked
    | operand _ _ _ stacked => exact ih stacked
    | joining _ _ _ _ stacked => exact ih stacked

theorem Stacked.filterMap_openingSpan? (stacked : Stacked places stack) :
    stack.filterMap openingSpan? = places.map fun place => ⟨place, place + 1⟩ := by
  induction stacked with
  | empty => rfl
  | opened place _ ih => exact congrArg (⟨place, place + 1⟩ :: ·) ih
  | operand _ _ _ _ ih => rw [List.filterMap_cons_none rfl, ih]
  | joining _ _ _ _ _ ih => rw [List.filterMap_cons_none rfl, ih]

theorem Stacked.push (stacked : Stacked places stack) {f : Filter} {span : Span}
    (pushed : push f span stack = .ok after) : Stacked places after := by
  cases stacked with
  | empty =>
    cases pushed
    exact .operand f span trivial .empty
  | opened place stacked =>
    cases pushed
    exact .operand f span trivial (.opened place stacked)
  | operand => cases pushed
  | joining connective left leftSpan level stacked =>
    rw [Filter.push, push_level level] at pushed
    cases pushed
    exact .operand _ _ level stacked

theorem Stacked.connect (stacked : Stacked places stack) {connective : Connective} {span : Span}
    (connected : connect connective span stack = .ok after) : Stacked places after := by
  cases stacked with
  | operand f leftSpan level stacked =>
    cases connected
    exact .joining _ _ _ level stacked
  | empty | opened | joining => cases connected

theorem Stacked.close (stacked : Stacked places stack) {span : Span}
    (closed : close span stack = .ok after) : Stacked places.tail after := by
  -- Only an operand right above a parenthesis can be closed, and the parenthesis goes.
  cases stacked with
  | operand f inner level stacked =>
    cases stacked with
    | opened place stacked => exact stacked.push closed
    | empty | operand | joining => cases closed
  | empty | opened | joining => cases closed

def Tracks (offset : Nat) (stack : List Pending) (text : List Char) (s : Scan) : Prop :=
  ∃ part, part ≠ [] ∧ text = part ++ s.rest ∧ s.offset = offset + byteLength part ∧
    ∀ places, Stacked places stack → Stacked (openPlaces offset places part) s.stack

theorem tracks_of_plain {offset : Nat} {text : List Char} {s : Scan} (part : List Char)
    (some : part ≠ [])
    (read : text = part ++ s.rest) (stop : s.offset = offset + byteLength part)
    (plain : '(' ∉ part ∧ ')' ∉ part)
    (kept : ∀ places, Stacked places stack → Stacked places s.stack) :
    Tracks offset stack text s := by
  refine ⟨part, some, read, stop, fun places stacked => ?_⟩
  rw [openPlaces_of_plain offset places plain]
  exact kept places stacked

theorem compareName_tracks {comparator : Comparator} {s t : Scan} {rest : List Char}
    (compared : compareName names comparator s rest = .ok t) :
    Tracks s.offset s.stack (comparator.mark :: rest) t := by
  obtain ⟨digits, rfl, stop, ⟨-, inside, -⟩, reads⟩ := compareName_reads compared
  have plain (c : Char) (other : c.isDigit = false) : c ∉ digits := fun member => by
    rw [inside c member] at other
    cases other
  cases reads with
  | comparison span _ _ _ _ pushed =>
    refine tracks_of_plain (comparator.mark :: '=' :: digits) (by simp) (by simp) ?_ ?_
      fun places stacked => stacked.push pushed
    · have mark : comparator.mark.utf8Size = 1 := by cases comparator <;> rfl
      have equals : '='.utf8Size = 1 := rfl
      rw [stop, byteLength, byteLength, byteLength_digits inside, mark, equals]
      omega
    · cases comparator <;> simp [Comparator.mark, plain '(' rfl, plain ')' rfl]

theorem step_tracks {s t : Scan} {c : Char} {rest : List Char} (delimiter : isDelimiter c = true)
    (visible : c ≠ ' ') (stepped : step names s c rest = .ok t) :
    Tracks s.offset s.stack (c :: rest) t := by
  unfold step at stepped
  split at stepped
  · exact absurd rfl visible
  · split at stepped
    · cases stepped
    · cases stepped
      exact ⟨['('], by simp, rfl, rfl, fun places stacked => .opened s.offset stacked⟩
  · split at stepped
    · cases stepped
    · split at stepped
      · cases stepped
      next closed =>
        cases stepped
        exact ⟨[')'], by simp, rfl, rfl, fun places stacked => stacked.close closed⟩
  · exact compareName_tracks stepped
  · exact compareName_tracks stepped
  · simp_all [isDelimiter]

theorem turnWord_tracks {r t : Reader} {c : Char} {rest : List Char} (letter : isDelimiter c = false)
    (turned : turnWord r c rest = .ok t) : Tracks r.offset r.stack (c :: rest) t.scan := by
  unfold turnWord at turned
  split at turned
  next connective after found =>
    unfold Reader.keyword? at found
    split at found
    · dsimp only at turned
      split at turned
      · cases turned
      next connected =>
        cases turned
        refine tracks_of_plain connective.word ?_ (eq_word_of_connectiveAt? found) ?_ ?_
          fun places stacked => stacked.connect connected
        · cases connective <;> simp [Connective.word]
        · cases connective <;> rfl
        · cases connective <;> simp [Connective.word]
    · cases found
  next none =>
    unfold Reader.grow at turned
    split at turned
    · cases turned
    · cases turned
      refine tracks_of_plain [c] (by simp) rfl rfl ?_ fun places stacked => stacked
      constructor <;> simp <;> rintro rfl <;> cases letter

theorem turn_tracks {r t : Reader} {c : Char} {rest : List Char} (ahead : r.rest = c :: rest)
    (turned : turn names r c rest = .ok t) : Tracks r.offset r.stack r.rest t.scan := by
  rw [ahead]
  unfold turn at turned
  split at turned
  next space =>
    subst space
    cases turned
    exact tracks_of_plain [' '] (by simp) rfl rfl (by simp) fun places stacked => stacked
  next visible =>
    split at turned
    next delimiter =>
      split at turned
      · cases turned
      next stepped =>
        cases turned
        exact step_tracks delimiter visible stepped
    next word => exact turnWord_tracks (by simpa using word) turned

theorem Reached.stacked {r : Reader} (reached : Reached names source r) :
    ∃ before, source = before ++ r.rest ∧ r.offset = byteLength before ∧
      Stacked (openPlaces 0 [] before) r.stack := by
  induction reached with
  | start => exact ⟨[], rfl, rfl, .empty⟩
  | @next r t c rest _ ahead turned ih =>
    obtain ⟨before, text, offset, stacked⟩ := ih
    obtain ⟨part, -, read, stop, follows⟩ := turn_tracks ahead turned
    refine ⟨before ++ part, ?_, ?_, ?_⟩
    · rw [List.append_assoc, text, read]
      rfl
    · rw [byteLength_append, ← offset]
      exact stop
    · rw [openPlaces_append, Nat.zero_add, ← offset]
      exact follows _ stacked

theorem openPlaces_covers {rest text : List Char} {offset : Nat} {opens : List Nat}
    (ahead : Ahead source offset (text ++ rest))
    (marks : ∀ place ∈ opens, (⟨place, place + 1⟩ : Span).Covers source ['(']) :
    ∀ place ∈ openPlaces offset opens text, (⟨place, place + 1⟩ : Span).Covers source ['('] := by
  induction text generalizing offset opens with
  | nil => exact marks
  | cons c text ih =>
    refine ih ahead.next ?_
    split
    next opening =>
      subst opening
      exact List.forall_mem_cons.2 ⟨ahead.covers ['('], marks⟩
    · split
      · exact fun place member => marks place (List.mem_of_mem_tail member)
      · exact marks

theorem openPlaces_pairwise {text : List Char} {offset : Nat} {opens : List Nat}
    (passed : ∀ place ∈ opens, place < offset) (ordered : opens.Pairwise (· > ·)) :
    (openPlaces offset opens text).Pairwise (· > ·) := by
  induction text generalizing offset opens with
  | nil => exact ordered
  | cons c text ih =>
    have further : offset < offset + c.utf8Size := Nat.lt_add_of_pos_right c.utf8Size_pos
    have later : ∀ place ∈ opens, place < offset + c.utf8Size :=
      fun place member => Nat.lt_trans (passed place member) further
    rw [openPlaces]
    split
    · exact ih (List.forall_mem_cons.2 ⟨further, later⟩) (List.pairwise_cons.2 ⟨passed, ordered⟩)
    · split
      · exact ih (fun place member => later place (List.mem_of_mem_tail member)) ordered.tail
      · exact ih later ordered

theorem Stacked.level {above : List Pending} {entry : Pending}
    (stacked : Stacked places (above ++ entry :: stack)) (other : openingSpan? entry = none) :
    Level stack := by
  obtain ⟨lower, stacked⟩ := stacked.lower
  cases stacked with
  | opened => cases other
  | operand _ _ level => exact level
  | joining _ _ _ level => exact level

theorem Stacked.own_opening {f : Filter} {span : Span}
    (stacked : Stacked places (.operand f span :: stack)) :
    (stack = [] ∧ places = []) ∨ ∃ place outer below,
      stack = .opened ⟨place, place + 1⟩ :: below ∧ places = place :: outer := by
  cases stacked with
  | operand _ _ level stacked =>
    cases stacked with
    | empty => exact .inl ⟨rfl, rfl⟩
    | @opened outer below place => exact .inr ⟨place, outer, below, rfl, rfl⟩
    | operand | joining => exact level.elim

theorem Level.eq_nil (level : Level stack)
    (unopened : ∀ entry ∈ stack, openingSpan? entry = none) : stack = [] := by
  match stack, level with
  | [], _ => rfl
  | .opened _ :: _, _ => cases unopened _ List.mem_cons_self

theorem Stacked.finish_cause (stacked : Stacked places stack) {stop : Nat} {fault : Fault}
    (refused : finish stop stack = .error fault) : fault.cause ≠ .cutShort := by
  unfold finish at refused
  split at refused
  · cases refused
    simp
  · cases refused
  · cases refused
    simp
  · cases refused
    simp
  next nonempty alone _ waiting =>
    split at refused
    · cases refused
      simp
    next none =>
      -- Two entries would have a parenthesis between them, and a single one was told of before.
      have unopened : ∀ entry ∈ stack, openingSpan? entry = Option.none := by simpa using none
      cases stacked with
      | empty => exact absurd rfl nonempty
      | opened place => cases unopened _ List.mem_cons_self
      | operand f span level =>
        rw [level.eq_nil (List.forall_mem_cons.1 unopened).2] at alone
        exact absurd rfl (alone f span)
      | joining connective left span level =>
        rw [level.eq_nil (List.forall_mem_cons.1 unopened).2] at waiting
        exact absurd rfl (waiting connective left span)

theorem push_cause {f : Filter} {span : Span} {fault : Fault}
    (refused : push f span stack = .error fault) : fault.cause ≠ .cutShort := by
  fun_induction push f span stack with
  | case1 | case2 => cases refused
  | case3 f span connective left leftSpan below ih => exact ih refused
  | case4 =>
    cases refused
    simp

theorem connect_cause {connective : Connective} {span : Span} {fault : Fault}
    (refused : connect connective span stack = .error fault) : fault.cause ≠ .cutShort := by
  unfold connect at refused
  split at refused <;> cases refused <;> simp

theorem close_cause {span : Span} {fault : Fault} (refused : close span stack = .error fault) :
    fault.cause ≠ .cutShort := by
  unfold close at refused
  split at refused
  · exact push_cause refused
  all_goals
    cases refused
    simp

theorem readPosition_cause {offset : Nat} {rest : List Char} {fault : Fault}
    (refused : readPosition offset rest = .error fault) : fault.cause ≠ .cutShort := by
  unfold readPosition at refused
  dsimp only at refused
  split at refused
  · cases refused
    simp
  · split at refused <;> cases refused
    simp

theorem compareName_cause {comparator : Comparator} {s : Scan} {rest : List Char} {fault : Fault}
    (refused : compareName names comparator s rest = .error fault) : fault.cause ≠ .cutShort := by
  unfold compareName at refused
  split at refused
  · cases refused
    simp
  · split at refused
    · cases refused
      simp
    · split at refused
      · cases refused
        simp
      · split at refused
        · cases refused
          simp
        · split at refused
          next failed =>
            cases refused
            exact readPosition_cause failed
          · split at refused
            next failed =>
              cases refused
              exact push_cause failed
            · cases refused

theorem readWord_cause {s : Scan} {c : Char} {rest : List Char} {fault : Fault}
    (refused : readWord s c rest = .error fault) : fault.cause ≠ .cutShort := by
  unfold readWord at refused
  split at refused
  · cases refused
    simp
  · split at refused
    · dsimp only at refused
      split at refused
      next failed =>
        cases refused
        exact connect_cause failed
      · cases refused
    · cases refused

theorem requireNoName_cause {name : Option Name} {span : Span} {fault : Fault}
    (refused : requireNoName name span = .error fault) : fault.cause ≠ .cutShort := by
  unfold requireNoName at refused
  split at refused <;> cases refused
  simp

theorem step_cause {s : Scan} {c : Char} {rest : List Char} {fault : Fault}
    (refused : step names s c rest = .error fault) : fault.cause ≠ .cutShort := by
  unfold step at refused
  split at refused
  · cases refused
  · split at refused
    next failed =>
      cases refused
      exact requireNoName_cause failed
    · cases refused
  · split at refused
    next failed =>
      cases refused
      exact requireNoName_cause failed
    · split at refused
      next failed =>
        cases refused
        exact close_cause failed
      · cases refused
  · exact compareName_cause refused
  · exact compareName_cause refused
  · exact readWord_cause refused

theorem run_cause {s : Scan} {fault : Fault} (refused : run names s = .error fault) :
    fault.cause ≠ .cutShort := by
  fun_induction run names s with
  | case1 => cases refused
  | case2 s c rest ahead failed stepped =>
    cases refused
    exact step_cause stepped
  | case3 s c rest ahead t stepped ih => exact ih refused

theorem compileChars_cause {fault : Fault} (refused : compileChars names source = .error fault) :
    fault.cause ≠ .cutShort := by
  have ends : LoopEnds names source (run names (.start source)) := loopEnds_run
  unfold compileChars at refused
  split at refused
  · cases refused
  · split at refused
    next failed =>
      cases refused
      exact run_cause failed
    next s ran =>
      rw [ran] at ends
      obtain ⟨r, reached, -, rfl⟩ := ends
      obtain ⟨before, -, -, stacked⟩ := reached.stacked
      split at refused
      next failed =>
        cases refused
        unfold finishScan at failed
        split at failed
        · cases failed
          simp
        · exact stacked.finish_cause failed
      · cases refused

structure Disciplined (names : List String) (before : List Char) (r : Reader) : Prop where
  offset : r.offset = byteLength before
  placed : ∀ above entry below, r.stack = above ++ entry :: below → openingSpan? entry = none →
    below = [] ∨ ∃ span rest, below = .opened span :: rest
  opened : r.stack.filterMap openingSpan? =
    (openPlaces 0 [] before).map fun place => ⟨place, place + 1⟩
  marks : ∀ place ∈ openPlaces 0 [] before,
    (⟨place, place + 1⟩ : Span).Covers (before ++ r.rest) ['(']
  ordered : (openPlaces 0 [] before).Pairwise (· > ·)
  advances : ∀ c rest t, r.rest = c :: rest → turn names r c rest = .ok t →
    ∃ part, part ≠ [] ∧ r.rest = part ++ t.rest ∧ t.offset = r.offset + byteLength part
  merges_once : ∀ above below, r.stack = above ++ below → ∀ f span,
    (pushCounting f span below).1 ≤ 1 ∧ (pushCounting f span below).2 = push f span below
  own_opening : ∀ f span below, r.stack = .operand f span :: below →
    (below = [] ∧ openPlaces 0 [] before = []) ∨ ∃ place outer rest,
      below = .opened ⟨place, place + 1⟩ :: rest ∧ openPlaces 0 [] before = place :: outer
  finishes : ∀ stop fault, finish stop r.stack = .error fault → fault.cause ≠ .cutShort

theorem Reached.disciplined {r : Reader} (reached : Reached names source r) :
    ∃ before, source = before ++ r.rest ∧ Disciplined names before r := by
  obtain ⟨before, text, offset, stacked⟩ := reached.stacked
  have ahead : Ahead (before ++ r.rest) 0 (before ++ r.rest) := .start _
  refine ⟨before, text, offset, ?_, stacked.filterMap_openingSpan?, openPlaces_covers ahead nofun,
    openPlaces_pairwise nofun .nil, ?_, ?_, ?_, fun stop fault => stacked.finish_cause⟩
  · intro above entry below split other
    have level := (split ▸ stacked).level other
    match below, level with
    | [], _ => exact .inl rfl
    | .opened span :: rest, _ => exact .inr ⟨span, rest, rfl⟩
  · intro c rest t ahead turned
    obtain ⟨part, some, read, stop, -⟩ := turn_tracks ahead turned
    exact ⟨part, some, read, stop⟩
  · intro above below split f span
    obtain ⟨lower, stacked⟩ := (split ▸ stacked).lower
    exact ⟨stacked.pushCounting_le f span, pushCounting_snd f span below⟩
  · intro f span below split
    exact (split ▸ stacked).own_opening

theorem stack_stays_in_order (names : List String) (source : List Char) :
    (∀ r, Reached names source r → ∃ before, source = before ++ r.rest ∧ Disciplined names before r) ∧
      LoopEnds names source (run names (.start source)) ∧
      ∀ fault, compileChars names source = .error fault → fault.cause ≠ .cutShort :=
  ⟨fun _ reached => reached.disciplined, loopEnds_run, fun _ => compileChars_cause⟩

def doomed : Reader :=
  ⟨[.opened ⟨5, 6⟩, .operand (.compare 0 .equal 0) ⟨0, 4⟩], [], ⟨0, 1⟩, false, 6, ['B']⟩

theorem doomed_stack_is_in_order :
    Reached ["A", "B"] "A==0 (B".toList doomed ∧
      ∃ before, "A==0 (B".toList = before ++ ['B'] ∧ Disciplined ["A", "B"] before doomed := by
  let word : Reader := ⟨[], ['A'], ⟨0, 1⟩, false, 1, "==0 (B".toList⟩
  let compared : Reader :=
    ⟨[.operand (.compare 0 .equal 0) ⟨0, 4⟩], [], ⟨0, 1⟩, false, 4, " (B".toList⟩
  have first : Reached ["A", "B"] "A==0 (B".toList word := .next .start rfl (by cbv)
  have second : Reached ["A", "B"] "A==0 (B".toList compared := .next first rfl (by cbv)
  have third : Reached ["A", "B"] "A==0 (B".toList (compared.passSpace "(B".toList) :=
    .next second rfl (by cbv)
  have last : Reached ["A", "B"] "A==0 (B".toList doomed := .next third rfl (by cbv)
  exact ⟨last, (stack_stays_in_order ["A", "B"] "A==0 (B".toList).1 doomed last⟩

end ParamGrid.Filter
