import ParamGrid.Proofs.Filter.Composition
import ParamGrid.Proofs.Filter.Evaluation

set_option autoImplicit false

namespace ParamGrid.Filter

def ordinalNames (count : Nat) : List String :=
  (List.range count).map fun dimension => String.ofList (ordinalName dimension)

def Readable : Filter → Prop
  | compare _ _ position => position ≤ maxPosition
  | join _ left right => left.Readable ∧ right.Readable

theorem digitsValue_decimalChars (n : Nat) : digitsValue (decimalChars n) = n :=
  Nat.ofDigitChars_ten_toDigits

theorem isDigit_decimalChars {n : Nat} {c : Char} (member : c ∈ decimalChars n) :
    c.isDigit = true :=
  Nat.isDigit_of_mem_toDigits (by decide) (by decide) member

theorem ordinalName_injective : Function.Injective ordinalName := by
  intro d e same
  have digits : decimalChars d = decimalChars e := (List.cons.inj same).2
  rw [← digitsValue_decimalChars d, digits, digitsValue_decimalChars]

theorem idxOf?_ordinalNames {count dimension : Nat} (bound : dimension < count) :
    (ordinalNames count).idxOf? (String.ofList (ordinalName dimension)) = some dimension := by
  rw [List.idxOf?_eq_some_iff]
  refine ⟨by simpa [ordinalNames] using bound, by simp [ordinalNames], fun other below => ?_⟩
  simp only [ordinalNames, List.getElem_map, List.getElem_range, String.ofList_inj]
  intro same
  exact Nat.ne_of_lt below (ordinalName_injective same)

theorem fits_ordinalName (dimension : Nat) (comparator : Comparator) (rest : List Char) :
    (Token.name (ordinalName dimension)).Fits (comparator.mark :: rest) := by
  refine ⟨by simp [ordinalName], ?_, ?_, ?_⟩
  · intro c member
    rcases List.mem_cons.1 member with rfl | member
    · rfl
    · exact isDelimiter_digit (isDigit_decimalChars member)
  · intro connective begins
    cases connective <;> simp [Connective.word, ordinalName] at begins
  · cases comparator <;> exact .cons rfl rest

theorem operand_compare {count dimension position : Nat} (comparator : Comparator)
    (bound : dimension < count) (readable : position ≤ maxPosition) :
    Operand (ordinalNames count) (compare dimension comparator position).chars
      (.compare dimension comparator position) := by
  have ends : Stops Char.isDigit [] := nofun
  have digits : (Token.comparison comparator (decimalChars position)).Fits [] :=
    ⟨Nat.toDigits_ne_nil, fun _ => isDigit_decimalChars, ends⟩
  have lexed : Lexes (comparator.mark :: '=' :: decimalChars position)
      [.comparison comparator (decimalChars position)] := by
    simpa [Token.chars] using Lexes.token digits .nil
  have small : digitsValue (decimalChars position) ≤ maxPosition := by
    rwa [digitsValue_decimalChars]
  have derived : Derives (ordinalNames count) .operand
      [.name (ordinalName dimension), .comparison comparator (decimalChars position)]
      (.compare dimension comparator (digitsValue (decimalChars position))) :=
    .comparison (idxOf?_ordinalNames bound) small
  rw [digitsValue_decimalChars] at derived
  exact ⟨_, .token (fits_ordinalName dimension comparator _) lexed, derived⟩

-- By induction on the tree: a join is the sentence of its two sides, in parentheses.
theorem operand_chars {count : Nat} {f : Filter} (within : f.Within count) (readable : f.Readable) :
    Operand (ordinalNames count) f.chars f := by
  induction f with
  | compare dimension comparator position => exact operand_compare comparator within readable
  | join connective left right leftIh rightIh =>
    have one := leftIh within.1 readable.1
    have other := rightIh within.2 readable.2
    have whole := (one.sentence.joined connective other).grouped
    simpa [chars, grouped, joinedChars] using whole

theorem Derives.readable {names : List String} {phrase : Phrase} {tokens : List Token} {f : Filter}
    (derived : Derives names phrase tokens f) : f.Readable := by
  induction derived with
  | comparison _ bound => exact bound
  | group _ ih => exact ih
  | single _ ih => exact ih
  | join _ _ _ left right => exact ⟨left, right⟩

theorem compile_own_text {count : Nat} {f : Filter} (within : f.Within count)
    (readable : f.Readable) (origin : String) :
    compile (ordinalNames count) origin f.text = .ok (some f) := by
  rw [compile_eq_some_iff, text, String.toList_ofList]
  exact (operand_chars within readable).sentence

theorem text_compiles_back :
    (∀ (count : Nat) (f : Filter) (origin : String), f.Within count → f.Readable →
      compile (ordinalNames count) origin f.text = .ok (some f)) ∧
    (∀ (count : Nat) (f g : Filter), f.Within count → f.Readable → g.Within count → g.Readable →
      f.text = g.text → f = g) ∧
    (∀ (names : List String) (origin source other : String) (f : Filter),
      compile names origin source = .ok (some f) →
        compile (ordinalNames names.length) other f.text = .ok (some f)) := by
  refine ⟨fun count f origin within readable => compile_own_text within readable origin, ?_, ?_⟩
  · intro count f g withinF readableF withinG readableG same
    have compiled := compile_own_text withinF readableF ""
    rw [same, compile_own_text withinG readableG ""] at compiled
    cases compiled
    rfl
  · intro names origin source other f compiled
    obtain ⟨tokens, -, derived⟩ := compile_eq_some_iff.1 compiled
    exact compile_own_text derived.within derived.readable other

theorem nested_text_compiles_back :
    let f : Filter := .join .or (.compare 2 .notEqual 18446744073709551615)
      (.join .and (.compare 0 .equal 0) (.compare 10 .equal 7))
    f.Within 11 ∧ f.Readable ∧ f.text = "(#2!=18446744073709551615 OR (#0==0 AND #10==7))" ∧
      compile (ordinalNames 11) "filter" f.text = .ok (some f) := by
  intro f
  have within : f.Within 11 := by simp [f, Within]
  have readable : f.Readable := by simp [f, Readable, maxPosition, UInt64.size]
  exact ⟨within, readable, by cbv, text_compiles_back.1 11 f "filter" within readable⟩

end ParamGrid.Filter
