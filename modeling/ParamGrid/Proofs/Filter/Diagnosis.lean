import Mathlib
import ParamGrid.Proofs.Filter.Parsing
import ParamGrid.Proofs.Text.Place

set_option autoImplicit false

namespace ParamGrid.Filter

variable {names : List String} {text : List Char}

def Cause.quoted? : Cause → Option String
  | unknownDimension name | nameAtEnd name => some name
  | positionTooLarge digits => some digits
  | _ => none

structure Fault.PointsInto (fault : Fault) (names : List String) (text : List Char) : Prop where
  within : fault.span.Within text
  quoted : ∀ part, fault.cause.quoted? = some part → fault.span.Covers text part.toList
  unknown : ∀ name, fault.cause = .unknownDimension name →
    (∀ c ∈ name.toList, isDelimiter c = false) ∧ name ∉ names

theorem Fault.pointsInto {cause : Cause} {span : Span} (within : span.Within text)
    (plain : cause.quoted? = none) : (⟨cause, span⟩ : Fault).PointsInto names text where
  within := within
  quoted := by simp [plain]
  unknown := by
    rintro name rfl
    cases plain

def Diagnosed {α : Type} (names : List String) (text : List Char) (good : α → Prop) :
    Except Fault α → Prop
  | .ok result => good result
  | .error fault => fault.PointsInto names text

theorem Diagnosed.points {α : Type} {good : α → Prop} {result : Except Fault α} {fault : Fault}
    (diagnosed : Diagnosed names text good result) (refused : result = .error fault) :
    fault.PointsInto names text := by
  rwa [refused] at diagnosed

theorem Diagnosed.good {α : Type} {good : α → Prop} {result : Except Fault α} {a : α}
    (diagnosed : Diagnosed names text good result) (accepted : result = .ok a) : good a := by
  rwa [accepted] at diagnosed

def Pending.span : Pending → Span
  | opened span | operand _ span | joining _ _ span => span

def Settled (text : List Char) (offset : Nat) (stack : List Pending) : Prop :=
  ∀ pending ∈ stack, pending.span.Within text ∧ pending.span.stop ≤ offset

theorem Settled.later {offset stop : Nat} {stack : List Pending} (settled : Settled text offset stack)
    (later : offset ≤ stop) : Settled text stop stack :=
  fun pending member => (settled pending member).imp_right fun bound => Nat.le_trans bound later

theorem settled_cons {offset : Nat} {pending : Pending} {stack : List Pending} :
    Settled text offset (pending :: stack) ↔
      (pending.span.Within text ∧ pending.span.stop ≤ offset) ∧ Settled text offset stack :=
  List.forall_mem_cons

theorem push_settled (names : List String) (f : Filter) {span : Span} {stack : List Pending}
    (settled : Settled text span.stop stack) (within : span.Within text) :
    Diagnosed names text (Settled text span.stop) (push f span stack) := by
  -- A join takes the span from its left side to its right one, so it still ends where `span` does.
  fun_induction push f span stack with
  | case1 => exact settled_cons.2 ⟨⟨within, Nat.le_refl _⟩, settled⟩
  | case2 => exact settled_cons.2 ⟨⟨within, Nat.le_refl _⟩, settled⟩
  | case3 f span connective left leftSpan below ih =>
    obtain ⟨⟨leftWithin, bound⟩, settled⟩ := settled_cons.1 settled
    exact ih settled (leftWithin.through within bound)
  | case4 => exact Fault.pointsInto within rfl

theorem connect_settled (names : List String) (connective : Connective) {span : Span}
    {stack : List Pending} (settled : Settled text span.stop stack) (within : span.Within text) :
    Diagnosed names text (Settled text span.stop) (connect connective span stack) := by
  unfold connect
  split
  next left leftSpan below =>
    obtain ⟨⟨leftWithin, bound⟩, settled⟩ := settled_cons.1 settled
    exact settled_cons.2 ⟨⟨leftWithin.through within bound, Nat.le_refl _⟩, settled⟩
  · exact Fault.pointsInto within rfl
  · exact Fault.pointsInto within rfl
  · exact Fault.pointsInto within rfl

theorem close_settled (names : List String) {span : Span} {stack : List Pending}
    (settled : Settled text span.stop stack) (within : span.Within text) :
    Diagnosed names text (Settled text span.stop) (close span stack) := by
  unfold close
  split
  next inner innerSpan opening below =>
    obtain ⟨-, settled⟩ := settled_cons.1 settled
    obtain ⟨⟨openingWithin, bound⟩, settled⟩ := settled_cons.1 settled
    exact push_settled names inner settled (openingWithin.through within bound)
  · exact Fault.pointsInto within rfl
  · exact Fault.pointsInto within rfl
  next connective left leftSpan below =>
    -- The place behind the connective, which is where its operand should be.
    obtain ⟨⟨leftWithin, -⟩, -⟩ := settled_cons.1 settled
    exact Fault.pointsInto (.point leftWithin.last) rfl
  · exact Fault.pointsInto within rfl

structure Name.Stands (name : Name) (text : List Char) : Prop where
  covers : name.span.Covers text name.chars
  inside : ∀ c ∈ name.chars, isDelimiter c = false

structure Scan.Placed (text : List Char) (s : Scan) : Prop where
  ahead : Ahead text s.offset s.rest
  settled : Settled text s.offset s.stack
  named : ∀ name, s.name = some name → name.Stands text ∧ name.span.stop ≤ s.offset

theorem Scan.Placed.start (text : List Char) : (Scan.start text).Placed text where
  ahead := .start text
  settled := by simp [Scan.start, Settled]
  named := by simp [Scan.start]

theorem requireNoName_diagnosed (names : List String) (name : Option Name) {span : Span}
    (within : span.Within text) :
    Diagnosed names text (fun _ => name = none) (requireNoName name span) := by
  cases name with
  | none => rfl
  | some name => exact Fault.pointsInto within rfl

theorem readPosition_placed (names : List String) {offset : Nat} {rest : List Char}
    (ahead : Ahead text offset rest) :
    Diagnosed names text (fun (_, stop, after) => offset ≤ stop ∧ Ahead text stop after)
      (readPosition offset rest) := by
  have digits : byteLength (rest.takeWhile Char.isDigit) = (rest.takeWhile Char.isDigit).length :=
    byteLength_digits fun c member => List.mem_takeWhile_imp member
  have parts : Ahead text offset (rest.takeWhile Char.isDigit ++ rest.dropWhile Char.isDigit) := by
    rwa [List.takeWhile_append_dropWhile]
  unfold readPosition
  dsimp only
  split
  · exact Fault.pointsInto (.point ahead.place) rfl
  · split
    · have covers := digits ▸ parts.covers
      refine ⟨covers.within, ?_, by simp⟩
      rintro _ ⟨rfl⟩
      rwa [String.toList_ofList]
    · exact ⟨Nat.le_add_right .., digits ▸ parts.behind⟩

theorem compareName_placed (names : List String) (comparator : Comparator) {s : Scan}
    {rest : List Char} (placed : s.Placed text) (ahead : s.rest = comparator.mark :: rest) :
    Diagnosed names text (Scan.Placed text) (compareName names comparator s rest) := by
  have mark : Ahead text s.offset (comparator.mark :: rest) := ahead ▸ placed.ahead
  have behind : Ahead text (s.offset + 1) rest := by
    cases comparator <;> exact mark.next
  unfold compareName
  split
  · exact Fault.pointsInto mark.within_char rfl
  next name named =>
    obtain ⟨stands, bound⟩ := placed.named name named
    split
    · exact Fault.pointsInto (.point behind.place) rfl
    next c rest =>
      split
      · exact Fault.pointsInto behind.within_char rfl
      next equals =>
        obtain rfl : c = '=' := by simpa using equals
        split
        next unknown =>
          refine ⟨stands.covers.within, ?_, ?_⟩
          · rintro _ ⟨rfl⟩
            simpa [Name.text] using stands.covers
          · rintro _ ⟨rfl⟩
            exact ⟨by simpa [Name.text] using stands.inside, List.idxOf?_eq_none_iff.1 unknown⟩
        next dimension found =>
          have digits : Ahead text (s.offset + 2) rest := behind.next
          have read := readPosition_placed names digits
          split
          next refused => exact read.points refused
          next position stop after accepted =>
            obtain ⟨later, ahead⟩ := read.good accepted
            have further : s.offset ≤ stop := by omega
            have within : (⟨name.span.start, stop⟩ : Span).Within text :=
              ⟨Nat.le_trans stands.covers.within.ordered (Nat.le_trans bound further),
                stands.covers.within.first, ahead.place⟩
            have pushed := push_settled names (.compare dimension comparator position)
              (placed.settled.later further) within
            split
            next refused => exact pushed.points refused
            next stack accepted =>
              exact ⟨ahead, pushed.good accepted, by simp⟩

theorem readWord_placed (names : List String) {s : Scan} {c : Char} {rest : List Char}
    (placed : s.Placed text) (ahead : s.rest = c :: rest) (word : isDelimiter c = false) :
    Diagnosed names text (Scan.Placed text) (readWord s c rest) := by
  have here : Ahead text s.offset (c :: rest) := ahead ▸ placed.ahead
  unfold readWord
  split
  · exact Fault.pointsInto here.within_char rfl
  next unnamed =>
    split
    next connective after found =>
      rw [eq_word_of_connectiveAt? found] at here
      have length : byteLength connective.word = connective.word.length := by
        cases connective <;> rfl
      have covers := length ▸ here.covers
      have connected := connect_settled names connective
        (placed.settled.later covers.within.ordered) covers.within
      dsimp only
      split
      next refused => exact connected.points refused
      next stack accepted =>
        exact ⟨length ▸ here.behind, connected.good accepted, by simp⟩
    next none =>
      have parts : Ahead text s.offset
          ((c :: rest.takeWhile fun d => !isDelimiter d) ++
            rest.dropWhile fun d => !isDelimiter d) := by
        rwa [List.cons_append, List.takeWhile_append_dropWhile]
      refine ⟨parts.behind, placed.settled.later (Nat.le_add_right ..), ?_⟩
      rintro _ ⟨rfl⟩
      refine ⟨⟨parts.covers, ?_⟩, Nat.le_refl _⟩
      intro d member
      rcases List.mem_cons.1 member with rfl | member
      · exact word
      · simpa using List.mem_takeWhile_imp member

theorem step_placed (names : List String) {s : Scan} {c : Char} {rest : List Char}
    (placed : s.Placed text) (ahead : s.rest = c :: rest) :
    Diagnosed names text (Scan.Placed text) (step names s c rest) := by
  have here : Ahead text s.offset (c :: rest) := ahead ▸ placed.ahead
  have within : (Span.ofChar s.offset c).Within text := here.within_char
  have unnamed := requireNoName_diagnosed names s.name within
  have later := placed.settled.later within.ordered
  unfold step
  split
  · exact ⟨here.next, placed.settled.later (Nat.le_add_right ..), fun name named =>
      (placed.named name named).imp_right fun bound => Nat.le_add_right_of_le bound⟩
  · split
    next refused => exact unnamed.points refused
    · exact ⟨here.next, settled_cons.2 ⟨⟨within, Nat.le_refl _⟩, later⟩, by simp⟩
  · split
    next refused => exact unnamed.points refused
    · have closed := close_settled names later within
      split
      next refused => exact closed.points refused
      next stack accepted =>
        exact ⟨here.next, closed.good accepted, by simp⟩
  · exact compareName_placed names .equal placed ahead
  · exact compareName_placed names .notEqual placed ahead
  · exact readWord_placed names placed ahead (by simp_all [isDelimiter])

theorem run_placed (names : List String) {s : Scan} (placed : s.Placed text) :
    Diagnosed names text (fun last => last.Placed text ∧ last.rest = []) (run names s) := by
  fun_induction run names s with
  | case1 s ended => exact ⟨placed, ended⟩
  | case2 s c rest ahead fault refused => exact (step_placed names placed ahead).points refused
  | case3 s c rest ahead t accepted ih => exact ih ((step_placed names placed ahead).good accepted)

theorem openingSpan?_eq {pending : Pending} {span : Span} (opened : openingSpan? pending = some span) :
    pending.span = span := by
  cases pending <;> cases opened
  rfl

theorem finish_diagnosed (names : List String) {stop : Nat} {stack : List Pending}
    (settled : Settled text stop stack) (ended : Ahead text stop []) :
    Diagnosed names text (fun _ => True) (finish stop stack) := by
  unfold finish
  split
  · have whole : (⟨0, stop⟩ : Span).Within text :=
      ⟨Nat.zero_le stop, (Ahead.start text).place, ended.place⟩
    exact Fault.pointsInto whole rfl
  · trivial
  · exact Fault.pointsInto (settled_cons.1 settled).1.1 rfl
  · exact Fault.pointsInto (.point (settled_cons.1 settled).1.1.last) rfl
  · split
    next span found =>
      obtain ⟨pending, member, opened⟩ := List.exists_of_findSome?_eq_some found
      have within := (settled pending (List.mem_reverse.1 member)).1
      exact Fault.pointsInto (openingSpan?_eq opened ▸ within) rfl
    · exact Fault.pointsInto (.point ended.place) rfl

theorem finishScan_diagnosed (names : List String) {s : Scan} (placed : s.Placed text)
    (ended : s.rest = []) : Diagnosed names text (fun _ => True) (finishScan s) := by
  unfold finishScan
  split
  next name named =>
    have covers := (placed.named name named).1.covers
    refine ⟨covers.within, ?_, by simp⟩
    rintro _ ⟨rfl⟩
    simpa [Name.text] using covers
  · exact finish_diagnosed names placed.settled (ended ▸ placed.ahead)

theorem compileChars_diagnosed (names : List String) (text : List Char) :
    Diagnosed names text (fun _ => True) (compileChars names text) := by
  have ran := run_placed names (Scan.Placed.start text)
  unfold compileChars
  split
  · trivial
  · split
    next refused => exact ran.points refused
    next last accepted =>
      obtain ⟨placed, ended⟩ := ran.good accepted
      have finished := finishScan_diagnosed names placed ended
      split
      next refused => exact finished.points refused
      · trivial

theorem compile_fault {origin source : String} {e : Error}
    (refused : compile names origin source = .error e) :
    ∃ fault : Fault, e = .filter origin source fault ∧ fault.PointsInto names source.toList := by
  obtain ⟨fault, faulty, rfl⟩ := compile_eq_error_iff.1 refused
  exact ⟨fault, rfl, (compileChars_diagnosed names source.toList).points faulty⟩

structure Reported (names : List String) (origin source : String) (e : Error) (span : Span) :
    Prop where
  kind : e.kind = .malformed ∨ e.kind = .unknownDimension
  sourced : e.source? = some (origin, source)
  pointed : e.span? = some span
  ordered : span.start ≤ span.stop
  bounded : span.stop ≤ source.utf8ByteSize
  first : String.Pos.Raw.IsValid source ⟨span.start⟩
  last : String.Pos.Raw.IsValid source ⟨span.stop⟩
  labels : e.labels? = some [⟨span.start, span.stop - span.start, e.summary⟩]
  unknown : e.kind = .unknownDimension → ∃ name,
    e.summary = "dimension '" ++ name ++ "' not found" ∧
    String.Pos.Raw.extract source ⟨span.start⟩ ⟨span.stop⟩ = name ∧
    (∀ c ∈ name.toList, c ∉ [' ', '(', ')', '=', '!']) ∧ name ∉ names
  trailing : ∀ symbol, e = .filter origin source ⟨.nameAtEnd symbol, span⟩ →
    e.summary = "trailing symbol '" ++ symbol ++ "' is not part of a comparison" ∧
    String.Pos.Raw.extract source ⟨span.start⟩ ⟨span.stop⟩ = symbol

theorem kind_filter (origin source : String) (fault : Fault) :
    (Error.filter origin source fault).kind = .malformed ∨
      (Error.filter origin source fault).kind = .unknownDimension := by
  obtain ⟨cause, span⟩ := fault
  cases cause with
  | unknownDimension => exact .inr rfl
  | _ => exact .inl rfl

theorem cause_of_kind {origin source : String} {fault : Fault}
    (kind : (Error.filter origin source fault).kind = .unknownDimension) :
    ∃ name, fault.cause = .unknownDimension name := by
  obtain ⟨cause, span⟩ := fault
  cases cause with
  | unknownDimension name => exact ⟨name, rfl⟩
  | _ => cases kind

theorem extract_quoted {source part : String} {fault : Fault}
    (points : fault.PointsInto names source.toList) (quotes : fault.cause.quoted? = some part) :
    String.Pos.Raw.extract source ⟨fault.span.start⟩ ⟨fault.span.stop⟩ = part := by
  rw [(points.quoted part quotes).extract, String.ofList_toList]

theorem errors_point_into_source {origin source : String} {e : Error}
    (refused : compile names origin source = .error e) :
    ∃ span, Reported names origin source e span := by
  obtain ⟨⟨cause, span⟩, rfl, points⟩ := compile_fault refused
  refine ⟨span, ?_⟩
  constructor
  case kind => exact kind_filter origin source _
  case sourced => rfl
  case pointed => rfl
  case ordered => exact points.within.ordered
  case bounded => exact points.within.last.le_size
  case first => exact points.within.first.isValid
  case last => exact points.within.last.isValid
  case labels => rfl
  case unknown =>
    intro kind
    obtain ⟨name, rfl⟩ := cause_of_kind kind
    obtain ⟨inside, missing⟩ := points.unknown name rfl
    refine ⟨name, rfl, extract_quoted points rfl, fun c member => ?_, missing⟩
    simpa [isDelimiter, and_assoc] using inside c member
  case trailing =>
    rintro symbol ⟨rfl⟩
    exact ⟨rfl, extract_quoted points rfl⟩

theorem accented_name_is_pointed_at :
    ∃ e, compile ["A"] "Size[0]" "A==0 OR größe==1" = .error e ∧
      e.message = "Unknown dimension: dimension 'größe' not found" ∧
      Reported ["A"] "Size[0]" "A==0 OR größe==1" e ⟨8, 15⟩ := by
  have refused : compile ["A"] "Size[0]" "A==0 OR größe==1" =
      .error (.filter "Size[0]" "A==0 OR größe==1" ⟨.unknownDimension "größe", ⟨8, 15⟩⟩) := by
    cbv
  obtain ⟨span, reported⟩ := errors_point_into_source refused
  obtain rfl : ⟨8, 15⟩ = span := Option.some.inj reported.pointed
  exact ⟨_, refused, rfl, reported⟩

end ParamGrid.Filter
