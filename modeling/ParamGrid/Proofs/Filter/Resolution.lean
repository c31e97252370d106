import ParamGrid.Proofs.Filter.Diagnosis

set_option autoImplicit false

namespace ParamGrid.Filter

variable {names extra : List String}

theorem idxOf?_append_names {name : String} (kept : name ∈ names ∨ name ∉ extra) :
    (names ++ extra).idxOf? name = names.idxOf? name := by
  cases found : names.idxOf? name with
  | some dimension =>
    rw [List.idxOf?] at found ⊢
    rw [List.findIdx?_append, found, Option.some_or]
  | none =>
    have missing : name ∉ names := List.idxOf?_eq_none_iff.1 found
    have both : name ∉ names ++ extra := by simp [missing, kept.resolve_left missing]
    exact List.idxOf?_eq_none_iff.2 both

def Unresolved {α : Type} (extra : List String) (result : Except Fault α) : Prop :=
  ∃ name ∈ extra, ∃ span, result = .error ⟨.unknownDimension name, span⟩

theorem compareName_append_names (names extra : List String) (comparator : Comparator) (s : Scan)
    (rest : List Char) :
    compareName (names ++ extra) comparator s rest = compareName names comparator s rest ∨
      Unresolved extra (compareName names comparator s rest) := by
  unfold compareName
  cases s.name with
  | none => exact .inl rfl
  | some name =>
    match rest with
    | [] => exact .inl rfl
    | c :: rest =>
      by_cases equals : c = '='
      · by_cases kept : name.text ∈ names ∨ name.text ∉ extra
        · exact .inl (by simp only [idxOf?_append_names kept])
        · have missing : names.idxOf? name.text = none := by simp_all
          refine .inr ⟨name.text, by simp_all, name.span, ?_⟩
          simp [equals, missing]
      · exact .inl (by simp [equals])

theorem step_append_names (names extra : List String) (s : Scan) (c : Char) (rest : List Char) :
    step (names ++ extra) s c rest = step names s c rest ∨
      Unresolved extra (step names s c rest) := by
  cases word : isDelimiter c with
  | false => exact .inl (by rw [step_word _ _ word, step_word _ _ word])
  | true =>
    have delimiter : (((c = ' ' ∨ c = '(') ∨ c = ')') ∨ c = '=') ∨ c = '!' := by
      simpa [isDelimiter] using word
    rcases delimiter with (((rfl | rfl) | rfl) | rfl) | rfl
    · exact .inl rfl
    · exact .inl rfl
    · exact .inl rfl
    · exact compareName_append_names names extra .equal s rest
    · exact compareName_append_names names extra .notEqual s rest

theorem run_append_names (names extra : List String) (s : Scan) :
    run (names ++ extra) s = run names s ∨ Unresolved extra (run names s) := by
  -- Both runs share every state, until a step that tells them apart ends the first one.
  fun_induction run names s with
  | case1 s ended => exact .inl (run_nil ended)
  | case2 s c rest ahead fault refused =>
    have stepped := step_append_names names extra s c rest
    rw [refused] at stepped
    refine stepped.imp (fun same => ?_) id
    exact run_fault ahead same
  | case3 s c rest ahead t accepted ih =>
    rcases step_append_names names extra s c rest with same | unresolved
    · rwa [run_step ahead (same.trans accepted)]
    · obtain ⟨name, -, span, refused⟩ := unresolved
      rw [accepted] at refused
      cases refused

theorem compileChars_append_names (names extra : List String) (text : List Char) :
    compileChars (names ++ extra) text = compileChars names text ∨
      Unresolved extra (compileChars names text) := by
  unfold compileChars
  by_cases empty : text = []
  · exact .inl (by rw [if_pos empty, if_pos empty])
  · rcases run_append_names names extra (.start text) with same | unresolved
    · exact .inl (by rw [same])
    · obtain ⟨name, member, span, refused⟩ := unresolved
      exact .inr ⟨name, member, span, by rw [if_neg empty, refused]⟩

def Misses (name : String) (result : Except Error (Option Filter)) : Prop :=
  ∃ origin source span, result = .error (.filter origin source ⟨.unknownDimension name, span⟩)

theorem compile_append_or_misses (names extra : List String) (origin source : String) :
    compile (names ++ extra) origin source = compile names origin source ∨
      ∃ name ∈ extra, Misses name (compile names origin source) := by
  unfold compile
  rcases compileChars_append_names names extra source.toList with
    same | ⟨name, member, span, refused⟩
  · exact .inl (by rw [same])
  · exact .inr ⟨name, member, origin, source, span, by rw [refused]⟩

theorem not_misses {names : List String} {origin source name : String} (known : name ∈ names) :
    ¬ Misses name (compile names origin source) := by
  rintro ⟨_, _, span, refused⟩
  obtain ⟨fault, same, points⟩ := compile_fault refused
  cases same
  exact (points.unknown name rfl).2 known

def FirstAt (names : List String) (name : String) (place : Nat) : Prop :=
  names[place]? = some name ∧ ∀ earlier < place, names[earlier]? ≠ some name

def dimensions : Filter → List Nat
  | compare dimension _ _ => [dimension]
  | join _ left right => left.dimensions ++ right.dimensions

def Token.name? : Token → Option String
  | name chars => some (.ofList chars)
  | _ => none

theorem firstAt_of_idxOf? {name : String} {place : Nat} (found : names.idxOf? name = some place) :
    FirstAt names name place := by
  obtain ⟨bound, here, before⟩ := List.idxOf?_eq_some_iff.1 found
  refine ⟨by rw [List.getElem?_eq_getElem bound, here], fun earlier lower same => ?_⟩
  obtain ⟨inside, there⟩ := List.getElem?_eq_some_iff.1 same
  exact before earlier lower there

theorem Derives.first_places {phrase : Phrase} {tokens : List Token} {f : Filter}
    (derived : Derives names phrase tokens f) :
    List.Forall₂ (FirstAt names) (tokens.filterMap Token.name?) f.dimensions := by
  induction derived with
  | comparison found bound => exact .cons (firstAt_of_idxOf? found) .nil
  | group _ ih => simpa [List.filterMap_cons, Token.name?] using ih
  | single _ ih => exact ih
  | join connective _ _ left right =>
    simpa [List.filterMap_cons, Token.name?, dimensions] using List.rel_append left right

/-- A result that no name of the longer list could change stays the same, and a name of that list is
missed no more. In a tree the names that the text compares stand for their first places. -/
theorem more_names_leave_results (names extra : List String) (origin source : String) :
    ((∀ name ∈ extra, ¬ Misses name (compile names origin source)) →
        compile (names ++ extra) origin source = compile names origin source) ∧
      (∀ name ∈ extra, ¬ Misses name (compile (names ++ extra) origin source)) ∧
      ∀ f, compile names origin source = .ok (some f) →
        ∃ tokens, Lexes source.toList tokens ∧
          List.Forall₂ (FirstAt names) (tokens.filterMap Token.name?) f.dimensions := by
  refine ⟨fun resolved => ?_, fun name member => ?_, fun f compiled => ?_⟩
  · rcases compile_append_or_misses names extra origin source with same | ⟨name, member, misses⟩
    · exact same
    · exact absurd misses (resolved name member)
  · exact not_misses (List.mem_append_right names member)
  · obtain ⟨tokens, lexed, derived⟩ := compile_eq_some_iff.1 compiled
    exact ⟨tokens, lexed, derived.first_places⟩

theorem names_behind_leave_fault :
    compile (["A"] ++ ["B", "A"]) "Size[0]" "A==0 OR C==1" =
      compile ["A"] "Size[0]" "A==0 OR C==1" := by
  have refused : compile ["A"] "Size[0]" "A==0 OR C==1" =
      .error (.filter "Size[0]" "A==0 OR C==1" ⟨.unknownDimension "C", ⟨8, 9⟩⟩) := by
    cbv
  refine (more_names_leave_results ["A"] ["B", "A"] "Size[0]" "A==0 OR C==1").1 ?_
  rintro name member ⟨_, _, _, missed⟩
  rw [refused] at missed
  cases missed
  simp at member

end ParamGrid.Filter
