import ParamGrid.Proofs.Engine.Acceptance
import ParamGrid.Proofs.Engine.Construction
import ParamGrid.Proofs.Filter.Composition

set_option autoImplicit false

namespace ParamGrid

def Dimension.withFilter (d : Dimension) (index : Nat) (source : String) : Dimension :=
  { d with
    filters := some (((List.range d.length).map d.filter?).set index (some source))
    length_filters := by
      rintro _ ⟨rfl⟩
      simp [Dimension.length] }

theorem Dimension.filter?_withFilter {d : Dimension} {index : Nat} (source : String)
    (inside : index < d.length) (other : Nat) :
    (d.withFilter index source).filter? other =
      if other = index then some source else d.filter? other := by
  simp only [Dimension.filter?, Dimension.withFilter]
  by_cases same : other = index
  · simp [same, inside]
  · rw [if_neg same, List.getElem?_set_ne (Ne.symm same)]
    by_cases bound : other < d.length
    · simp [bound, Dimension.filter?]
    · have outside : d.length ≤ other := Nat.le_of_not_lt bound
      simpa [bound, Dimension.filter?] using (Dimension.filter?_of_le outside).symm

def Filter.joinedText (connective : Connective) (left right : String) : String :=
  "(" ++ left ++ ") " ++ connective.text ++ " (" ++ right ++ ")"

theorem Filter.Sentence.joinedText {names : List String} {left right : String} {f g : Filter}
    (connective : Connective) (one : Sentence names left.toList f)
    (other : Sentence names right.toList g) :
    Sentence names (joinedText connective left right).toList (.join connective f g) := by
  have whole := one.grouped.sentence.joined connective other.grouped
  simpa [Filter.joinedText, joinedChars, Filter.grouped, Connective.text] using whole

namespace Engine

variable {σ : Type}

def withFilter (dimensions : List Dimension) (i j : Nat) (source : String) : List Dimension :=
  dimensions.modify i fun d => d.withFilter j source

theorem getElem?_withFilter (dimensions : List Dimension) (i j : Nat) (source : String) (k : Nat) :
    (withFilter dimensions i j source)[k]? =
      (dimensions[k]?).map fun d => if i = k then d.withFilter j source else d :=
  List.getElem?_modify _ _ _ _

theorem map_withFilter {α : Type} (f : Dimension → α) {j : Nat} {source : String}
    (kept : ∀ d : Dimension, f (d.withFilter j source) = f d) (dimensions : List Dimension) (i : Nat) :
    (withFilter dimensions i j source).map f = dimensions.map f := by
  apply List.ext_getElem?
  intro k
  rw [List.getElem?_map, getElem?_withFilter, Option.map_map, List.getElem?_map]
  congr 1
  funext d
  simp only [Function.comp_apply]
  split
  · exact kept d
  · rfl

theorem names_withFilter (dimensions : List Dimension) (i j : Nat) (source : String) :
    (withFilter dimensions i j source).map Dimension.name = dimensions.map Dimension.name :=
  map_withFilter Dimension.name (fun _ => rfl) dimensions i

theorem sizes_withFilter (dimensions : List Dimension) (i j : Nat) (source : String) :
    (withFilter dimensions i j source).map Dimension.length = dimensions.map Dimension.length :=
  map_withFilter Dimension.length (fun _ => rfl) dimensions i

theorem place_withFilter (dimensions : List Dimension) (i j : Nat) (source : String) :
    place (withFilter dimensions i j source) = place dimensions := by
  funext cursor
  rw [place_eq_rank, place_eq_rank, sizes_withFilter]

section

variable {dimensions : List Dimension} {d : Dimension} {i j : Nat}

theorem forall_withFilter_iff (P : Nat → Dimension → Nat → Prop) (source : String)
    (placed : dimensions[i]? = some d)
    (kept : ∀ index, index ≠ j → (P i (d.withFilter j source) index ↔ P i d index)) :
    (∀ k other index, (withFilter dimensions i j source)[k]? = some other → P k other index) ↔
      (∀ k other index, dimensions[k]? = some other → (k = i → index ≠ j) → P k other index) ∧
        P i (d.withFilter j source) j := by
  have replaced : (withFilter dimensions i j source)[i]? = some (d.withFilter j source) := by
    simp [getElem?_withFilter, placed]
  have untouched {k : Nat} (elsewhere : k ≠ i) :
      (withFilter dimensions i j source)[k]? = dimensions[k]? := by
    simp [getElem?_withFilter, Ne.symm elsewhere]
  constructor
  · refine fun all => ⟨fun k other index found others => ?_, all i _ j replaced⟩
    by_cases here : k = i
    · subst here
      obtain rfl := Option.some.inj (placed.symm.trans found)
      exact (kept index (others rfl)).1 (all k _ index replaced)
    · exact all k other index (by rw [untouched here, found])
  · rintro ⟨others, new⟩ k other index found
    by_cases here : k = i
    · subst here
      obtain rfl := Option.some.inj (replaced.symm.trans found)
      by_cases same : index = j
      · exact same ▸ new
      · exact (kept index same).2 (others k d index placed fun _ => same)
    · exact others k other index (by rw [← untouched here, found]) fun same => absurd same here

theorem compileSlot_withFilter (names : List String) (source : String) (inside : j < d.length)
    (index : Nat) :
    compileSlot names (d.withFilter j source) index =
      if index = j then Filter.compile names (slotName d j) source else compileSlot names d index := by
  unfold compileSlot
  rw [Dimension.filter?_withFilter source inside]
  split
  next same => rw [same]; rfl
  next => rfl

theorem new_withFilter_ok_iff (placed : dimensions[i]? = some d) (inside : j < d.length)
    (source : String) :
    (∃ e : Engine σ, Engine.new (withFilter dimensions i j source) = .ok e) ↔
      (dimensions.map Dimension.name).Nodup ∧
        (∀ k other index, dimensions[k]? = some other → (k = i → index ≠ j) →
          index < other.length →
            ∃ filter, compileSlot (dimensions.map Dimension.name) other index = .ok filter) ∧
        ∃ filter, Filter.compile (dimensions.map Dimension.name) (slotName d j) source = .ok filter := by
  let names := dimensions.map Dimension.name
  have slots := forall_withFilter_iff (fun _ other index => index < other.length →
      ∃ filter, compileSlot names other index = .ok filter) source placed fun index different => by
    rw [compileSlot_withFilter _ _ inside, if_neg different]
    rfl
  have here : j < (d.withFilter j source).length := inside
  rw [compileSlot_withFilter _ _ inside, if_pos rfl, imp_iff_right here] at slots
  rw [new_ok_iff, names_withFilter, ← slots]
  simp only [Compiles, List.mem_iff_getElem?, forall_exists_index]
  refine and_congr_right fun _ => ⟨?_, ?_⟩
  · exact fun all k other index found => all other k found index
  · exact fun all other k found index => all k other index found

theorem exists_sentence (placed : dimensions[i]? = some d) (inside : j < d.length) {source : String}
    (nonempty : source ≠ "")
    (built : ∃ e : Engine σ, Engine.new (withFilter dimensions i j source) = .ok e) :
    ∃ f, Filter.Sentence (dimensions.map Dimension.name) source.toList f := by
  obtain ⟨-, -, filter, compiled⟩ := (new_withFilter_ok_iff placed inside source).1 built
  cases filter with
  | none => exact absurd (Filter.compile_eq_none_iff.1 compiled) nonempty
  | some f => exact ⟨f, Filter.compile_eq_some_iff.1 compiled⟩

def AdmitsElsewhere (dimensions : List Dimension) (i j : Nat) (cursor : List Nat) : Prop :=
  ∀ (k : Nat) (d : Dimension) (index : Nat),
    dimensions[k]? = some d → (k = i → index ≠ j) → cursor[k]? = some index →
      slotAdmits (dimensions.map Dimension.name) cursor d index = true

theorem admits_iff {dimensions : List Dimension} {cursor : List Nat} :
    admits dimensions cursor = true ↔
      ∀ (k : Nat) (d : Dimension) (index : Nat), dimensions[k]? = some d → cursor[k]? = some index →
        slotAdmits (dimensions.map Dimension.name) cursor d index = true := by
  simp only [admits, List.all_eq_true, Prod.forall, List.mem_iff_getElem?, List.getElem?_zip_eq_some,
    forall_exists_index, and_imp]
  constructor
  · exact fun all k d index found read => all d index k found read
  · exact fun all d index k found read => all k d index found read

theorem slotAdmits_withFilter_of_ne {names : List String} {cursor : List Nat} {index : Nat}
    (source : String) (inside : j < d.length) (different : index ≠ j) :
    slotAdmits names cursor (d.withFilter j source) index = slotAdmits names cursor d index := by
  simp only [slotAdmits, Dimension.filter?_withFilter source inside, if_neg different]
  rfl

theorem slotAdmits_withFilter_self {names : List String} {cursor : List Nat} {source : String}
    {f : Filter} (inside : j < d.length) (sentence : Filter.Sentence names source.toList f) :
    slotAdmits names cursor (d.withFilter j source) j = f.holds cursor := by
  have nonempty : source ≠ "" := by
    rintro rfl
    exact sentence.text_ne_nil rfl
  simp only [slotAdmits, Dimension.filter?_withFilter source inside, if_true, nonempty, if_false,
    Filter.compile_eq_some_iff.2 sentence]

theorem mem_accepted_withFilter {cursor : List Nat} {source : String} {f : Filter}
    (placed : dimensions[i]? = some d) (inside : j < d.length)
    (sentence : Filter.Sentence (dimensions.map Dimension.name) source.toList f) :
    cursor ∈ accepted (withFilter dimensions i j source) ↔
      Odometer.Within (dimensions.map Dimension.length) cursor ∧
        AdmitsElsewhere dimensions i j cursor ∧ (cursor[i]? = some j → f.holds cursor = true) := by
  have occupied : withFilter dimensions i j source ≠ [] := by
    rintro empty
    have found := getElem?_withFilter dimensions i j source i
    simp [empty, placed] at found
  have slots := forall_withFilter_iff (fun k other index => cursor[k]? = some index →
      slotAdmits (dimensions.map Dimension.name) cursor other index = true) source placed
    fun index different => by rw [slotAdmits_withFilter_of_ne source inside different]
  rw [slotAdmits_withFilter_self inside sentence] at slots
  rw [mem_accepted, sizes_withFilter, admits_iff, names_withFilter, slots]
  simp only [occupied, ne_eq, not_false_eq_true, true_and, AdmitsElsewhere]

end

/-- Where two texts can each stand for a filter, so can the two of them joined; and what is accepted
then, in the order of the places, is what is accepted with both of them or with one of them. -/
theorem joined_filters_combine {dimensions : List Dimension} {d : Dimension} {i j : Nat}
    {s g : String} {one other : Engine σ} (placed : dimensions[i]? = some d) (inside : j < d.length)
    (nonempty : s ≠ "") (nonemptyOther : g ≠ "")
    (built : Engine.new (withFilter dimensions i j s) = .ok one)
    (builtOther : Engine.new (withFilter dimensions i j g) = .ok other) (connective : Connective) :
    ∃ (both : Engine σ) (a b r : Run σ),
      Engine.new (withFilter dimensions i j (Filter.joinedText connective s g)) = .ok both ∧
      one.run = .ok a ∧ other.run = .ok b ∧ both.run = .ok r ∧
      a.cursors = accepted (withFilter dimensions i j s) ∧
      b.cursors = accepted (withFilter dimensions i j g) ∧
      r.cursors = accepted (withFilter dimensions i j (Filter.joinedText connective s g)) ∧
      r.cursors.Pairwise (fun x y => place dimensions x < place dimensions y) ∧
      ∀ cursor, cursor ∈ r.cursors ↔
        Filter.Combines connective (cursor ∈ a.cursors) (cursor ∈ b.cursors) := by
  obtain ⟨f, sentence⟩ := exists_sentence placed inside nonempty ⟨one, built⟩
  obtain ⟨h, sentenceOther⟩ := exists_sentence placed inside nonemptyOther ⟨other, builtOther⟩
  have joined := sentence.joinedText connective sentenceOther
  have buildable : ∃ e : Engine σ,
      Engine.new (withFilter dimensions i j (Filter.joinedText connective s g)) = .ok e := by
    obtain ⟨distinct, elsewhere, -⟩ := (new_withFilter_ok_iff placed inside s).1 ⟨one, built⟩
    exact (new_withFilter_ok_iff placed inside _).2
      ⟨distinct, elsewhere, _, Filter.compile_eq_some_iff.2 joined⟩
  obtain ⟨both, builtBoth⟩ := buildable
  obtain ⟨a, ranOne, cursorsOne, -⟩ := run_accepts built
  obtain ⟨b, ranOther, cursorsOther, -⟩ := run_accepts builtOther
  obtain ⟨r, ran, cursors, -⟩ := run_accepts builtBoth
  refine ⟨both, a, b, r, builtBoth, ranOne, ranOther, ran, cursorsOne, cursorsOther, cursors, ?_,
    fun cursor => ?_⟩
  · rw [cursors, ← place_withFilter dimensions i j]
    exact accepted_sorted _
  · rw [cursors, cursorsOne, cursorsOther, mem_accepted_withFilter placed inside joined,
      mem_accepted_withFilter placed inside sentence,
      mem_accepted_withFilter placed inside sentenceOther]
    by_cases within : Odometer.Within (dimensions.map Dimension.length) cursor
    · obtain ⟨_, -, derived⟩ := joined
      have long : cursor.length = dimensions.length := by simpa using within.length_eq
      have known := derived.within
      rw [List.length_map, ← long] at known
      rw [Filter.holds_join known]
      cases connective <;> simp only [within, Filter.Combines] <;> tauto
    · cases connective <;> simp [within, Filter.Combines]

theorem accepted_red :
    accepted (withFilter shirts 1 0 "Size==2 OR Size==0") = [[0, 0], [2, 0], [0, 1]] ∧
      accepted (withFilter shirts 1 0 "Size!=2 OR Color==1") = [[0, 0], [1, 0], [0, 1]] ∧
      accepted (withFilter shirts 1 0 "(Size==2 OR Size==0) AND (Size!=2 OR Color==1)") =
        [[0, 0], [0, 1]] := by
  refine ⟨?_, ?_, ?_⟩ <;> cbv

theorem red_shirts_combine :
    let s := "Size==2 OR Size==0"
    let g := "Size!=2 OR Color==1"
    Filter.joinedText .and s g = "(Size==2 OR Size==0) AND (Size!=2 OR Color==1)" ∧
      s ≠ "" ∧ g ≠ "" ∧
      ∃ (d : Dimension) (one other both : Engine Nat) (a b r : Run Nat),
        shirts[1]? = some d ∧ 0 < d.length ∧
        Engine.new (withFilter shirts 1 0 s) = .ok one ∧
        Engine.new (withFilter shirts 1 0 g) = .ok other ∧
        Engine.new (withFilter shirts 1 0 (Filter.joinedText .and s g)) = .ok both ∧
        one.run = .ok a ∧ other.run = .ok b ∧ both.run = .ok r ∧
        a.cursors = [[0, 0], [2, 0], [0, 1]] ∧ b.cursors = [[0, 0], [1, 0], [0, 1]] ∧
        r.cursors = [[0, 0], [0, 1]] ∧
        ∀ cursor, cursor ∈ r.cursors ↔ cursor ∈ a.cursors ∧ cursor ∈ b.cursors := by
  intro s g
  have placed : shirts[1]? = some shirts[1] := rfl
  let green : Option Filter := some (.compare 0 .equal 0)
  let one : Engine Nat :=
    ⟨withFilter shirts 1 0 s,
      [[none, none, none],
        [some (.join .or (.compare 0 .equal 2) (.compare 0 .equal 0)), green]],
      [0, 0], true, .pending, false, none⟩
  let other : Engine Nat :=
    ⟨withFilter shirts 1 0 g,
      [[none, none, none],
        [some (.join .or (.compare 0 .notEqual 2) (.compare 1 .equal 1)), green]],
      [0, 0], true, .pending, false, none⟩
  have built : Engine.new (withFilter shirts 1 0 s) = .ok one := by cbv
  have builtOther : Engine.new (withFilter shirts 1 0 g) = .ok other := by cbv
  obtain ⟨both, a, b, r, builtBoth, ranOne, ranOther, ran, left, right, joined, -, combined⟩ :=
    joined_filters_combine placed (by decide) (by decide) (by decide) built builtOther .and
  have text : Filter.joinedText .and s g = "(Size==2 OR Size==0) AND (Size!=2 OR Color==1)" := by cbv
  rw [text] at joined
  exact ⟨text, by decide, by decide, shirts[1], one, other, both, a, b, r, placed, by decide, built,
    builtOther, builtBoth, ranOne, ranOther, ran, left.trans accepted_red.1,
    right.trans accepted_red.2.1, joined.trans accepted_red.2.2, combined⟩

end Engine

end ParamGrid
