import Mathlib.Data.List.TakeWhile
import ParamGrid.Filter.Source
import ParamGrid.Proofs.Filter.Grammar

set_option autoImplicit false

namespace ParamGrid.Filter

theorem takeWhile_append_stops {p : Char → Bool} {run rest : List Char}
    (inside : ∀ c ∈ run, p c = true) (stops : Stops p rest) : (run ++ rest).takeWhile p = run := by
  rw [List.takeWhile_append_of_pos inside]
  cases rest with
  | nil => simp
  | cons c rest => simp [stops c rfl]

theorem dropWhile_append_stops {p : Char → Bool} {run rest : List Char}
    (inside : ∀ c ∈ run, p c = true) (stops : Stops p rest) : (run ++ rest).dropWhile p = rest := by
  rw [List.dropWhile_append_of_pos inside]
  cases rest with
  | nil => simp
  | cons c rest => simp [stops c rfl]

theorem stops_dropWhile (p : Char → Bool) (text : List Char) : Stops p (text.dropWhile p) := by
  intro c first
  have kept := List.head?_dropWhile_not p text
  simp only [first] at kept
  simpa using kept

theorem connectiveAt?_word (connective : Connective) (rest : List Char) :
    connectiveAt? (connective.word ++ rest) = some (connective, rest) := by
  cases connective <;> rfl

theorem eq_word_of_connectiveAt? {text after : List Char} {connective : Connective}
    (found : connectiveAt? text = some (connective, after)) : text = connective.word ++ after := by
  unfold connectiveAt? at found
  split at found <;> cases found <;> rfl

theorem isDelimiter_word (connective : Connective) {c : Char} (member : c ∈ connective.word) :
    isDelimiter c = false := by
  cases connective <;> simp only [Connective.word, List.mem_cons, List.not_mem_nil, or_false] at member
  · rcases member with rfl | rfl | rfl <;> rfl
  · rcases member with rfl | rfl <;> rfl

-- A word that started inside the name would go on behind it, where no letter stands.
theorem connectiveAt?_name {chars rest : List Char}
    (free : ∀ connective : Connective, ¬ connective.word <+: chars)
    (stops : Stops (fun c => !isDelimiter c) rest) : connectiveAt? (chars ++ rest) = none := by
  cases found : connectiveAt? (chars ++ rest) with
  | none => rfl
  | some pair =>
    obtain ⟨connective, after⟩ := pair
    have same := eq_word_of_connectiveAt? found
    rcases List.append_eq_append_iff.1 same with ⟨tail, word, behind⟩ | ⟨tail, within, -⟩
    · cases tail with
      | nil => exact absurd ⟨[], by simp [word]⟩ (free connective)
      | cons c tail =>
        have letter : isDelimiter c = false := isDelimiter_word connective (by simp [word])
        have delimiter := stops c (by simp [behind])
        simp [letter] at delimiter
    · exact absurd ⟨tail, within.symm⟩ (free connective)

theorem run_nil {names : List String} {s : Scan} (ended : s.rest = []) : run names s = .ok s := by
  rw [run]
  split
  · rfl
  · simp_all

theorem run_step {names : List String} {s t : Scan} {c : Char} {rest : List Char}
    (ahead : s.rest = c :: rest) (stepped : step names s c rest = .ok t) :
    run names s = run names t := by
  rw [run]
  split
  · simp_all
  next c' rest' ahead' =>
    rw [ahead] at ahead'
    cases ahead'
    split
    next stepped' => simp [stepped] at stepped'
    next stepped' =>
      rw [stepped] at stepped'
      cases stepped'
      rfl

theorem run_fault {names : List String} {s : Scan} {c : Char} {rest : List Char} {fault : Fault}
    (ahead : s.rest = c :: rest) (refused : step names s c rest = .error fault) :
    run names s = .error fault := by
  rw [run]
  split
  · simp_all
  next ahead' =>
    rw [ahead] at ahead'
    cases ahead'
    split <;> simp_all

theorem run_ok_step {names : List String} {s last : Scan} {c : Char} {rest : List Char}
    (ahead : s.rest = c :: rest) (ran : run names s = .ok last) :
    ∃ t, step names s c rest = .ok t ∧ run names t = .ok last := by
  cases stepped : step names s c rest with
  | ok t => exact ⟨t, rfl, by rw [← run_step ahead stepped, ran]⟩
  | error fault =>
    rw [run_fault ahead stepped] at ran
    cases ran

inductive Reads (names : List String) (stack : List Pending) (name : Option Name) (t : Scan) :
    Token → Prop where
  | opening (span : Span) :
      name = none → t.name = none → t.stack = .opened span :: stack →
      Reads names stack name t .opening
  | closing (span : Span) :
      name = none → t.name = none → close span stack = .ok t.stack →
      Reads names stack name t .closing
  | connective (connective : Connective) (span : Span) :
      name = none → t.name = none → connect connective span stack = .ok t.stack →
      Reads names stack name t (.connective connective)
  | name (chars : List Char) (span : Span) :
      name = none → t.name = some ⟨chars, span⟩ → t.stack = stack →
      Reads names stack name t (.name chars)
  | comparison {comparator : Comparator} {digits : List Char} {waiting : Name} {dimension : Nat}
      (span : Span) :
      name = some waiting → t.name = none → names.idxOf? waiting.text = some dimension →
      digitsValue digits ≤ maxPosition →
      push (.compare dimension comparator (digitsValue digits)) span stack = .ok t.stack →
      Reads names stack name t (.comparison comparator digits)

theorem readPosition_eq_ok {offset position stop : Nat} {rest after : List Char}
    (read : readPosition offset rest = .ok (position, stop, after)) :
    ∃ digits, rest = digits ++ after ∧ digits ≠ [] ∧ (∀ c ∈ digits, c.isDigit = true) ∧
      Stops Char.isDigit after ∧ digitsValue digits ≤ maxPosition ∧
      position = digitsValue digits ∧ stop = offset + digits.length := by
  unfold readPosition at read
  dsimp only at read
  split at read
  · cases read
  next some =>
    split at read
    · cases read
    next bound =>
      cases read
      refine ⟨rest.takeWhile Char.isDigit, List.takeWhile_append_dropWhile.symm, some, ?_,
        stops_dropWhile _ _, Nat.le_of_not_lt bound, rfl, rfl⟩
      intro c member
      exact List.mem_takeWhile_imp member

theorem readPosition_digits {digits after : List Char} (offset : Nat) (some : digits ≠ [])
    (inside : ∀ c ∈ digits, c.isDigit = true) (stops : Stops Char.isDigit after)
    (bound : digitsValue digits ≤ maxPosition) :
    readPosition offset (digits ++ after) =
      .ok (digitsValue digits, offset + digits.length, after) := by
  unfold readPosition
  simp only [takeWhile_append_stops inside stops, dropWhile_append_stops inside stops, some,
    Nat.not_lt.2 bound, if_false]

theorem compareName_reads {names : List String} {comparator : Comparator} {s t : Scan}
    {rest : List Char} (compared : compareName names comparator s rest = .ok t) :
    ∃ digits, rest = '=' :: (digits ++ t.rest) ∧ t.offset = s.offset + 2 + digits.length ∧
      (Token.comparison comparator digits).Fits t.rest ∧
      Reads names s.stack s.name t (.comparison comparator digits) := by
  unfold compareName at compared
  split at compared
  · cases compared
  next name named =>
    split at compared
    · cases compared
    next c rest =>
      split at compared
      · cases compared
      next equals =>
        split at compared
        · cases compared
        next dimension found =>
          split at compared
          · cases compared
          next read =>
            obtain ⟨digits, rfl, some, inside, stops, bound, rfl, rfl⟩ := readPosition_eq_ok read
            split at compared
            · cases compared
            next pushed =>
              cases compared
              obtain rfl : c = '=' := by simpa using equals
              exact ⟨digits, rfl, rfl, ⟨some, inside, stops⟩,
                .comparison _ named rfl found bound pushed⟩

theorem readWord_reads {names : List String} {s t : Scan} {c : Char} {rest : List Char}
    (word : isDelimiter c = false) (read : readWord s c rest = .ok t) :
    ∃ token, c :: rest = token.chars ++ t.rest ∧ token.Fits t.rest ∧ Reads names s.stack s.name t token := by
  unfold readWord at read
  split at read
  · cases read
  next unnamed =>
    split at read
    next connective after found =>
      dsimp only at read
      split at read
      · cases read
      next connected =>
        cases read
        exact ⟨.connective connective, eq_word_of_connectiveAt? found, trivial,
          .connective connective _ unnamed rfl connected⟩
    next none =>
      cases read
      refine ⟨.name (c :: rest.takeWhile fun d => !isDelimiter d), ?_, ⟨by simp, ?_, ?_, ?_⟩,
        .name _ _ unnamed rfl rfl⟩
      · simp [Token.chars, List.takeWhile_append_dropWhile]
      · intro d member
        rcases List.mem_cons.1 member with rfl | member
        · exact word
        · simpa using List.mem_takeWhile_imp member
      · rintro connective ⟨tail, within⟩
        have whole : c :: rest = connective.word ++ (tail ++ rest.dropWhile fun d => !isDelimiter d) := by
          rw [← List.append_assoc, within, List.cons_append, List.takeWhile_append_dropWhile]
        rw [whole, connectiveAt?_word] at none
        cases none
      · exact stops_dropWhile _ _

theorem step_reads {names : List String} {s t : Scan} {c : Char} {rest : List Char}
    (stepped : step names s c rest = .ok t) :
    (c = ' ' ∧ t.stack = s.stack ∧ t.name = s.name ∧ t.rest = rest) ∨
      ∃ token, c :: rest = token.chars ++ t.rest ∧ token.Fits t.rest ∧ Reads names s.stack s.name t token := by
  have unnamed {span : Span} {u : Unit} (required : requireNoName s.name span = .ok u) :
      s.name = none := by
    unfold requireNoName at required
    split at required
    next none => exact none
    · cases required
  unfold step at stepped
  split at stepped
  · cases stepped
    exact .inl ⟨rfl, rfl, rfl, rfl⟩
  · split at stepped
    · cases stepped
    next required =>
      cases stepped
      exact .inr ⟨.opening, rfl, trivial, .opening _ (unnamed required) rfl rfl⟩
  · split at stepped
    · cases stepped
    next required =>
      split at stepped
      · cases stepped
      next closed =>
        cases stepped
        exact .inr ⟨.closing, rfl, trivial, .closing _ (unnamed required) rfl closed⟩
  · obtain ⟨digits, rfl, -, fits, reads⟩ := compareName_reads stepped
    exact .inr ⟨.comparison .equal digits, rfl, fits, reads⟩
  · obtain ⟨digits, rfl, -, fits, reads⟩ := compareName_reads stepped
    exact .inr ⟨.comparison .notEqual digits, rfl, fits, reads⟩
  next space opening closing equals bang =>
    have word : isDelimiter c = false := by
      simpa [isDelimiter] using ⟨⟨⟨⟨space, opening⟩, closing⟩, equals⟩, bang⟩
    exact .inr (readWord_reads word stepped)

def Level : List Pending → Prop
  | [] | .opened _ :: _ => True
  | .operand .. :: _ | .joining .. :: _ => False

/-- The stack holds the tokens, all that have been read except for a name at the end. An open
parenthesis may have an operand right below it: this is an error that only the end brings out. -/
inductive Holds (names : List String) : List Pending → List Token → Prop where
  | empty : Holds names [] []
  | opened {below : List Pending} {tokens : List Token} (span : Span) :
      Holds names below tokens → Holds names (.opened span :: below) (tokens ++ [.opening])
  | operand {below : List Pending} {tokens inner : List Token} {f : Filter} (span : Span) :
      Level below → Holds names below tokens → Derives names .expression inner f →
      Holds names (.operand f span :: below) (tokens ++ inner)
  | joining {below : List Pending} {tokens left : List Token} {f : Filter}
      (connective : Connective) (span : Span) :
      Level below → Holds names below tokens → Derives names .expression left f →
      Holds names (.joining connective f span :: below) (tokens ++ (left ++ [.connective connective]))

theorem push_level {stack : List Pending} (level : Level stack) (f : Filter) (span : Span) :
    push f span stack = .ok (.operand f span :: stack) := by
  match stack, level with
  | [], _ => rfl
  | .opened _ :: _, _ => rfl

theorem push_holds {names : List String} {stack after : List Pending} {tokens inner : List Token}
    {f : Filter} {span : Span} (holds : Holds names stack tokens)
    (derived : Derives names .operand inner f) (pushed : push f span stack = .ok after) :
    Holds names after (tokens ++ inner) := by
  cases holds with
  | empty =>
    cases pushed
    exact .operand span trivial .empty (.single derived)
  | opened opening holds =>
    cases pushed
    exact .operand span trivial (.opened opening holds) (.single derived)
  | operand => cases pushed
  | joining connective leftSpan level holds left =>
    rw [push, push_level level] at pushed
    cases pushed
    have joined := Holds.operand (leftSpan.through span) level holds (.join connective left derived)
    simpa using joined

theorem connect_holds {names : List String} {stack after : List Pending} {tokens : List Token}
    {connective : Connective} {span : Span} (holds : Holds names stack tokens)
    (connected : connect connective span stack = .ok after) :
    Holds names after (tokens ++ [.connective connective]) := by
  cases holds with
  | operand leftSpan level holds left =>
    cases connected
    rw [List.append_assoc]
    exact .joining connective _ level holds left
  | _ => cases connected

theorem close_holds {names : List String} {stack after : List Pending} {tokens : List Token}
    {span : Span} (holds : Holds names stack tokens) (closed : close span stack = .ok after) :
    Holds names after (tokens ++ [.closing]) := by
  cases holds with
  | operand inner level holds derived =>
    cases holds with
    | opened opening holds =>
      have pushed := push_holds holds (.group derived) closed
      simpa using pushed
    | empty => cases closed
    | operand => cases closed
    | joining => cases closed
  | _ => cases closed

def Scan.nameTokens (s : Scan) : List Token :=
  match s.name with
  | none => []
  | some name => [.name name.chars]

def Scan.Holds (names : List String) (s : Scan) (tokens : List Token) : Prop :=
  ∃ below, Filter.Holds names s.stack below ∧ tokens = below ++ s.nameTokens

theorem Reads.holds {names : List String} {s t : Scan} {token : Token} {tokens : List Token}
    (reads : Reads names s.stack s.name t token) (holds : s.Holds names tokens) :
    t.Holds names (tokens ++ [token]) := by
  obtain ⟨below, holds, rfl⟩ := holds
  cases reads with
  | opening span unnamed named stack =>
    refine ⟨below ++ [.opening], ?_, by simp [Scan.nameTokens, unnamed, named]⟩
    rw [stack]
    exact .opened span holds
  | closing span unnamed named closed =>
    exact ⟨below ++ [.closing], close_holds holds closed, by simp [Scan.nameTokens, unnamed, named]⟩
  | connective connective span unnamed named connected =>
    exact ⟨below ++ [.connective connective], connect_holds holds connected,
      by simp [Scan.nameTokens, unnamed, named]⟩
  | name chars span unnamed named stack =>
    exact ⟨below, stack ▸ holds, by simp [Scan.nameTokens, unnamed, named]⟩
  | @comparison comparator digits waiting _ span named unnamed found bound pushed =>
    refine ⟨below ++ [.name waiting.chars, .comparison comparator digits],
      push_holds holds (.comparison found bound) pushed, ?_⟩
    simp [Scan.nameTokens, unnamed, named]

theorem run_holds {names : List String} {s last : Scan} (ran : run names s = .ok last) :
    ∃ tokens, Lexes s.rest tokens ∧
      ∀ before, s.Holds names before → last.Holds names (before ++ tokens) := by
  induction length : s.rest.length using Nat.strong_induction_on generalizing s with
  | _ n ih =>
    cases ahead : s.rest with
    | nil =>
      rw [run_nil ahead] at ran
      cases ran
      exact ⟨[], .nil, fun before holds => by simpa using holds⟩
    | cons c rest =>
      obtain ⟨t, stepped, ran⟩ := run_ok_step ahead ran
      have shorter := length_step stepped
      rw [ahead, List.length_cons] at length
      obtain ⟨tokens, lexed, kept⟩ := ih t.rest.length (by omega) ran rfl
      rcases step_reads stepped with ⟨rfl, stack, name, rfl⟩ | ⟨token, text, fits, reads⟩
      · refine ⟨tokens, .space lexed, fun before holds => kept before ?_⟩
        simpa only [Scan.Holds, Scan.nameTokens, stack, name] using holds
      · refine ⟨token :: tokens, text ▸ .token fits lexed, fun before holds => ?_⟩
        simpa using kept _ (reads.holds holds)

theorem finish_eq_ok {stop : Nat} {stack : List Pending} {f : Filter}
    (finished : finish stop stack = .ok f) : ∃ span, stack = [.operand f span] := by
  unfold finish at finished
  split at finished
  · cases finished
  next span =>
    cases finished
    exact ⟨span, rfl⟩
  · cases finished
  · cases finished
  · split at finished <;> cases finished

theorem sentence_of_run {names : List String} {text : List Char} {s : Scan} {f : Filter}
    (ran : run names (.start text) = .ok s) (finished : finishScan s = .ok f) :
    Sentence names text f := by
  obtain ⟨tokens, lexed, kept⟩ := run_holds ran
  obtain ⟨below, holds, same⟩ := kept [] ⟨[], .empty, rfl⟩
  unfold finishScan at finished
  split at finished
  · cases finished
  next unnamed =>
    obtain ⟨span, stack⟩ := finish_eq_ok finished
    rw [stack] at holds
    cases holds with
    | operand _ _ holds derived =>
      cases holds with
      | empty =>
        simp only [Scan.nameTokens, unnamed, List.nil_append, List.append_nil] at same
        exact ⟨tokens, lexed, same ▸ derived⟩

theorem run_blanks (names : List String) {s : Scan} {blanks : Nat} {rest : List Char}
    (ahead : s.rest = List.replicate blanks ' ' ++ rest) :
    ∃ t, run names s = run names t ∧ t.stack = s.stack ∧ t.name = s.name ∧ t.rest = rest := by
  induction blanks generalizing s with
  | zero => exact ⟨s, rfl, rfl, rfl, ahead⟩
  | succ blanks ih =>
    let next : Scan := { s with offset := s.offset + 1, rest := List.replicate blanks ' ' ++ rest }
    obtain ⟨t, same, stack, name, ended⟩ := ih (s := next) rfl
    exact ⟨t, (run_step (t := next) ahead rfl).trans same, stack, name, ended⟩

def Takes (names : List String) (stack : List Pending) (name : Option Name) : Token → Prop
  | .opening | .name _ => name = none
  | .closing => name = none ∧ ∀ span, ∃ after, close span stack = .ok after
  | .connective c => name = none ∧ ∀ span, ∃ after, connect c span stack = .ok after
  | .comparison comparator digits =>
    ∃ waiting dimension, name = some waiting ∧ names.idxOf? waiting.text = some dimension ∧
      digitsValue digits ≤ maxPosition ∧
      ∀ span, ∃ after, push (.compare dimension comparator (digitsValue digits)) span stack = .ok after

theorem step_mark (names : List String) (s : Scan) (comparator : Comparator) (rest : List Char) :
    step names s comparator.mark rest = compareName names comparator s rest := by
  cases comparator <;> rfl

theorem step_word (names : List String) (s : Scan) {c : Char} (word : isDelimiter c = false)
    (rest : List Char) : step names s c rest = readWord s c rest := by
  unfold step
  split <;> first | rfl | cases word

theorem step_takes {names : List String} {s : Scan} {token : Token} {rest : List Char}
    (takes : Takes names s.stack s.name token) (fits : token.Fits rest) :
    ∃ c behind t, token.chars ++ rest = c :: behind ∧ step names s c behind = .ok t ∧
      t.rest = rest ∧ Reads names s.stack s.name t token := by
  cases token with
  | opening =>
    refine ⟨'(', rest, ⟨.opened (.ofChar s.offset '(') :: s.stack, none, s.offset + 1, rest⟩,
      rfl, ?_, rfl, .opening _ takes rfl rfl⟩
    simp [step, requireNoName, show s.name = none from takes]
  | closing =>
    obtain ⟨unnamed, closes⟩ := takes
    obtain ⟨after, closed⟩ := closes (.ofChar s.offset ')')
    refine ⟨')', rest, ⟨after, none, s.offset + 1, rest⟩, rfl, ?_, rfl,
      .closing _ unnamed rfl closed⟩
    simp [step, requireNoName, unnamed, closed]
  | connective c =>
    obtain ⟨unnamed, connects⟩ := takes
    obtain ⟨after, connected⟩ := connects ⟨s.offset, s.offset + c.word.length⟩
    obtain ⟨first, letters, word⟩ : ∃ first letters, c.word = first :: letters := by
      cases c <;> exact ⟨_, _, rfl⟩
    have letter : isDelimiter first = false := isDelimiter_word c (by simp [word])
    have text : c.word ++ rest = first :: (letters ++ rest) := by rw [word, List.cons_append]
    refine ⟨first, letters ++ rest, ⟨after, none, s.offset + c.word.length, rest⟩, text, ?_, rfl,
      .connective c _ unnamed rfl connected⟩
    simp only [step_word names s letter, readWord, unnamed, ← text, connectiveAt?_word, connected]
  | name chars =>
    obtain ⟨nonempty, inside, free, stops⟩ := fits
    cases chars with
    | nil => exact absurd rfl nonempty
    | cons c letters =>
      have tail : ∀ d ∈ letters, (!isDelimiter d) = true := fun d member => by
        simp [inside d (List.mem_cons_of_mem c member)]
      have run := takeWhile_append_stops tail stops
      have behind := dropWhile_append_stops tail stops
      have none := connectiveAt?_name free stops
      let stop := s.offset + byteLength (c :: letters)
      refine ⟨c, letters ++ rest, ⟨s.stack, some ⟨c :: letters, ⟨s.offset, stop⟩⟩, stop, rest⟩,
        rfl, ?_, rfl, .name _ _ takes rfl rfl⟩
      rw [step_word names s (inside c (by simp)), readWord, show s.name = Option.none from takes]
      rw [List.cons_append] at none
      simp only [none, run, behind, stop]
  | comparison comparator digits =>
    obtain ⟨some, inside, stops⟩ := fits
    obtain ⟨waiting, dimension, named, found, bound, pushes⟩ := takes
    obtain ⟨after, pushed⟩ := pushes ⟨waiting.span.start, s.offset + 2 + digits.length⟩
    refine ⟨comparator.mark, '=' :: (digits ++ rest),
      ⟨after, none, s.offset + 2 + digits.length, rest⟩, rfl, ?_, rfl,
      .comparison _ named rfl found bound pushed⟩
    simp [step_mark, compareName, named, found, readPosition_digits _ some inside stops bound, pushed]

theorem run_takes (names : List String) {s : Scan} {token : Token} {after : List Token}
    (lexed : Lexes s.rest (token :: after)) (takes : Takes names s.stack s.name token) :
    ∃ t, run names s = run names t ∧ Reads names s.stack s.name t token ∧ Lexes t.rest after := by
  obtain ⟨blanks, rest, text, fits, lexed⟩ := lexed.split_token
  obtain ⟨u, skipped, stack, name, ahead⟩ := run_blanks names text
  rw [← stack, ← name] at takes
  obtain ⟨c, behind, t, first, stepped, rfl, reads⟩ := step_takes takes fits
  rw [stack, name] at reads
  exact ⟨t, skipped.trans (run_step (ahead.trans first) stepped), reads, lexed⟩

def Ready (f : Filter) (stack : List Pending) : Phrase → Prop
  | .operand => ∀ span, ∃ after, push f span stack = .ok after
  | .expression => Level stack

def Taken (f : Filter) (before after : List Pending) : Phrase → Prop
  | .operand => ∃ span, push f span before = .ok after
  | .expression => ∃ span, after = .operand f span :: before

theorem run_derives {names : List String} {phrase : Phrase} {tokens after : List Token}
    {f : Filter} {s : Scan} (derived : Derives names phrase tokens f)
    (ready : Ready f s.stack phrase) (unnamed : s.name = none)
    (lexed : Lexes s.rest (tokens ++ after)) :
    ∃ t, run names s = run names t ∧ t.name = none ∧ Lexes t.rest after ∧
      Taken f s.stack t.stack phrase := by
  induction derived generalizing s after with
  | @comparison chars digits comparator dimension found bound =>
    obtain ⟨u, first, reads, lexed⟩ := run_takes names lexed unnamed
    cases reads with
    | name _ span _ named stack =>
      have takes : Takes names u.stack u.name (.comparison comparator digits) :=
        ⟨_, dimension, named, found, bound, by simpa only [Ready, stack] using ready⟩
      obtain ⟨t, second, reads, lexed⟩ := run_takes names lexed takes
      cases reads with
      | comparison span named' unnamed found' _ pushed =>
        rw [named] at named'
        cases named'
        obtain rfl := Option.some.inj (found.symm.trans found')
        exact ⟨t, first.trans second, unnamed, lexed, span, stack ▸ pushed⟩
  | @group tokens f _ ih =>
    rw [List.cons_append, List.append_assoc] at lexed
    obtain ⟨u, first, reads, lexed⟩ := run_takes names lexed unnamed
    cases reads with
    | opening opening _ unnamed stack =>
      obtain ⟨v, second, unnamed, lexed, inner, top⟩ := ih (by rw [stack]; trivial) unnamed lexed
      have closes : ∀ span, ∃ after, close span v.stack = .ok after := fun span => by
        rw [top, stack]
        exact ready _
      obtain ⟨t, third, reads, lexed⟩ := run_takes names lexed ⟨unnamed, closes⟩
      cases reads with
      | closing span _ unnamed closed =>
        rw [top, stack] at closed
        exact ⟨t, first.trans (second.trans third), unnamed, lexed, _, closed⟩
  | single _ ih =>
    obtain ⟨t, same, unnamed, lexed, span, pushed⟩ :=
      ih (fun span => ⟨_, push_level ready _ span⟩) unnamed lexed
    rw [push_level ready] at pushed
    exact ⟨t, same, unnamed, lexed, span, (Except.ok.inj pushed).symm⟩
  | @join connective left right f g _ _ ihLeft ihRight =>
    rw [List.append_assoc, List.cons_append] at lexed
    obtain ⟨u, first, unnamed, lexed, leftSpan, top⟩ := ihLeft ready unnamed lexed
    have connects : ∀ span, ∃ after, connect connective span u.stack = .ok after := fun span => by
      rw [top]
      exact ⟨_, rfl⟩
    obtain ⟨v, second, reads, lexed⟩ := run_takes names lexed ⟨unnamed, connects⟩
    cases reads with
    | connective _ span _ unnamed connected =>
      rw [top, connect] at connected
      have waiting := (Except.ok.inj connected).symm
      have joins : ∀ span, push g span v.stack =
          .ok (.operand (.join connective f g) ((leftSpan.through _).through span) :: s.stack) :=
        fun span => by rw [waiting, push, push_level ready]
      obtain ⟨t, third, unnamed, lexed, rightSpan, pushed⟩ :=
        ihRight (fun span => ⟨_, joins span⟩) unnamed lexed
      rw [joins] at pushed
      exact ⟨t, first.trans (second.trans third), unnamed, lexed, _, (Except.ok.inj pushed).symm⟩

theorem run_of_sentence {names : List String} {text : List Char} {f : Filter}
    (sentence : Sentence names text f) :
    ∃ s, run names (.start text) = .ok s ∧ finishScan s = .ok f := by
  obtain ⟨tokens, lexed, derived⟩ := sentence
  rw [← List.append_nil tokens] at lexed
  obtain ⟨u, first, unnamed, lexed, span, top⟩ :=
    run_derives (s := .start text) derived trivial rfl lexed
  obtain ⟨blanks, ahead⟩ := lexed.eq_blanks
  rw [← List.append_nil (List.replicate blanks ' ')] at ahead
  obtain ⟨t, second, stack, name, ended⟩ := run_blanks names ahead
  refine ⟨t, (first.trans second).trans (run_nil ended), ?_⟩
  rw [finishScan, name, unnamed, stack, top]
  rfl

theorem compileChars_eq_some_iff {names : List String} {text : List Char} {f : Filter} :
    compileChars names text = .ok (some f) ↔ Sentence names text f := by
  constructor
  · intro compiled
    unfold compileChars at compiled
    split at compiled
    · cases compiled
    · split at compiled
      · cases compiled
      next ran =>
        split at compiled
        · cases compiled
        next finished =>
          cases compiled
          exact sentence_of_run ran finished
  · intro sentence
    obtain ⟨s, ran, finished⟩ := run_of_sentence sentence
    simp only [compileChars, sentence.text_ne_nil, if_false, ran, finished]

theorem Sentence.unique {names : List String} {text : List Char} {f g : Filter}
    (one : Sentence names text f) (other : Sentence names text g) : f = g := by
  have compiled := compileChars_eq_some_iff.2 one
  rw [compileChars_eq_some_iff.2 other] at compiled
  cases compiled
  rfl

theorem compileChars_eq_none_iff {names : List String} {text : List Char} :
    compileChars names text = .ok none ↔ text = [] := by
  constructor
  · intro compiled
    unfold compileChars at compiled
    split at compiled
    next empty => exact empty
    · split at compiled
      · cases compiled
      · split at compiled <;> cases compiled
  · rintro rfl
    rfl

theorem compile_eq_ok_iff {names : List String} {origin source : String} {filter : Option Filter} :
    compile names origin source = .ok filter ↔ compileChars names source.toList = .ok filter := by
  unfold compile
  split <;> simp_all

theorem compile_eq_error_iff {names : List String} {origin source : String} {e : Error} :
    compile names origin source = .error e ↔
      ∃ fault, compileChars names source.toList = .error fault ∧ e = .filter origin source fault := by
  unfold compile
  cases compileChars names source.toList with
  | ok filter => simp
  | error fault => simp [eq_comm]

theorem compile_eq_some_iff {names : List String} {origin source : String} {f : Filter} :
    compile names origin source = .ok (some f) ↔ Sentence names source.toList f :=
  compile_eq_ok_iff.trans compileChars_eq_some_iff

theorem compile_eq_none_iff {names : List String} {origin source : String} :
    compile names origin source = .ok none ↔ source = "" := by
  rw [compile_eq_ok_iff, compileChars_eq_none_iff, String.toList_eq_nil_iff]

theorem compile_reads_grammar (names : List String) (origin source : String) :
    (compile names origin source = .ok none ↔ source = "") ∧
      (∀ f, compile names origin source = .ok (some f) ↔ Sentence names source.toList f) ∧
      ((∃ e, compile names origin source = .error e) ↔
        source ≠ "" ∧ ∀ f, ¬ Sentence names source.toList f) := by
  refine ⟨compile_eq_none_iff, fun f => compile_eq_some_iff, ?_⟩
  constructor
  · rintro ⟨e, refused⟩
    constructor
    · intro empty
      rw [compile_eq_none_iff.2 empty] at refused
      cases refused
    · intro f sentence
      rw [compile_eq_some_iff.2 sentence] at refused
      cases refused
  · rintro ⟨nonempty, none⟩
    cases compiled : compile names origin source with
    | error e => exact ⟨e, rfl⟩
    | ok filter =>
      cases filter with
      | none => exact absurd (compile_eq_none_iff.1 compiled) nonempty
      | some f => exact absurd (compile_eq_some_iff.1 compiled) (none f)

end ParamGrid.Filter
