import ParamGrid.Proofs.Engine.History
import ParamGrid.Proofs.Engine.Projection

set_option autoImplicit false

namespace ParamGrid

theorem append_cons_inj_of_not_mem {α : Type} {mark : α} {part other rest more : List α}
    (inside : mark ∉ part) (insideOther : mark ∉ other) :
    part ++ mark :: rest = other ++ mark :: more ↔ part = other ∧ rest = more := by
  induction part generalizing other with
  | nil => cases other <;> grind
  | cons c part ih => cases other <;> grind

namespace Combination

def entryChars (entry : String × Value) : List Char :=
  entry.1.toList ++ '=' :: entry.2.identifier.toList

theorem toList_identifier (c : Combination) :
    c.identifier.toList = [';'].intercalate (c.entries.map entryChars) := by
  rw [identifier, String.toList_intercalate, List.map_map]
  congr 1
  refine List.map_congr_left fun entry _ => ?_
  simp [entryIdentifier, entryChars]

theorem intercalate_entryChars_iff {entries others : List (String × Value)}
    (names : List.Forall₂ (fun entry other => entry.1 = other.1) entries others)
    (plain : ∀ entry ∈ entries, ';' ∉ entry.2.identifier.toList)
    (plainOthers : ∀ other ∈ others, ';' ∉ other.2.identifier.toList) :
    [';'].intercalate (entries.map entryChars) = [';'].intercalate (others.map entryChars) ↔
      entries.map (fun entry => entry.2.identifier) =
        others.map (fun other => other.2.identifier) := by
  -- The names are equal on both sides and fall away; then the first semicolon ends the first value.
  induction names with
  | nil => simp
  | cons same names ih =>
    obtain ⟨first, plain⟩ := List.forall_mem_cons.1 plain
    obtain ⟨firstOther, plainOthers⟩ := List.forall_mem_cons.1 plainOthers
    have rest := ih plain plainOthers
    cases names with
    | nil => simp [entryChars, same, String.toList_inj]
    | cons =>
      simp only [List.map_cons, List.intercalate_cons_cons] at rest ⊢
      simp only [entryChars, same, List.append_assoc, List.cons_append, List.nil_append,
        List.append_cancel_left_eq, List.cons.injEq, true_and,
        append_cons_inj_of_not_mem first firstOther, String.toList_inj] at rest ⊢
      rw [rest]

theorem identifier_eq_iff {c other : Combination}
    (names : c.entries.map Prod.fst = other.entries.map Prod.fst)
    (plain : ∀ entry ∈ c.entries, ';' ∉ entry.2.identifier.toList)
    (plainOther : ∀ entry ∈ other.entries, ';' ∉ entry.2.identifier.toList) :
    c.identifier = other.identifier ↔
      c.entries.map (fun entry => entry.2.identifier) =
        other.entries.map (fun entry => entry.2.identifier) := by
  rw [← List.forall₂_eq_eq_eq, List.forall₂_map_left_iff, List.forall₂_map_right_iff] at names
  rw [← String.toList_inj, toList_identifier, toList_identifier,
    intercalate_entryChars_iff names plain plainOther]

end Combination

namespace Engine

variable {σ : Type} {dimensions : List Dimension} {e : Engine σ} {a b : List Nat}

def Plain (dimensions : List Dimension) : Prop :=
  ∀ d ∈ dimensions, ∀ value ∈ d.values, ';' ∉ value.identifier.toList

theorem Selects.mem_values {cursor : List Nat} {c : Combination} (selects : Selects dimensions cursor c)
    {entry : String × Value} (member : entry ∈ c.entries) :
    ∃ d ∈ dimensions, entry.2 ∈ d.values := by
  obtain ⟨i, found⟩ := List.getElem?_of_mem member
  rw [selects.getElem?_entries] at found
  obtain ⟨d, placed, named⟩ := Option.bind_eq_some_iff.1 found
  obtain ⟨value, chosen, rfl⟩ := Option.map_eq_some_iff.1 named
  simp only [valueAt?, placed, Option.bind_eq_bind, Option.bind_some] at chosen
  obtain ⟨index, -, read⟩ := Option.bind_eq_some_iff.1 chosen
  exact ⟨d, List.mem_of_getElem? placed, List.mem_of_getElem? read⟩

theorem Selects.getElem?_values {cursor : List Nat} {c : Combination}
    (selects : Selects dimensions cursor c) (i : Nat) :
    c.entries[i]?.map Prod.snd = valueAt? dimensions cursor i := by
  rw [selects.getElem?_entries]
  cases placed : dimensions[i]? with
  | none => simp [valueAt?, placed]
  | some d => simp [Function.comp_def]

theorem Selects.identifier_eq_iff {c other : Combination} (selects : Selects dimensions a c)
    (selectsOther : Selects dimensions b other)
    (within : List.Forall₂ (fun index d => index < Dimension.length d) a dimensions)
    (withinOther : List.Forall₂ (fun index d => index < Dimension.length d) b dimensions)
    (plain : Plain dimensions) :
    c.identifier = other.identifier ↔
      ∀ i, (valueAt? dimensions a i).map Value.identifier =
        (valueAt? dimensions b i).map Value.identifier := by
  have names : c.entries.map Prod.fst = other.entries.map Prod.fst := by
    rw [selects.eq_selected, selectsOther.eq_selected, selected_names within,
      selected_names withinOther]
  have plainEntries {cursor : List Nat} {c : Combination} (selects : Selects dimensions cursor c) :
      ∀ entry ∈ c.entries, ';' ∉ entry.2.identifier.toList := fun entry member => by
    obtain ⟨d, listed, value⟩ := selects.mem_values member
    exact plain d listed _ value
  rw [Combination.identifier_eq_iff names (plainEntries selects) (plainEntries selectsOther),
    List.ext_getElem?_iff]
  simp only [← selects.getElem?_values, ← selectsOther.getElem?_values, List.getElem?_map,
    Option.map_map, Function.comp_def]

theorem eq_of_identifiers
    (distinct : ∀ d ∈ dimensions, (d.values.map Value.identifier).Nodup)
    (within : List.Forall₂ (fun index d => index < Dimension.length d) a dimensions)
    (withinOther : List.Forall₂ (fun index d => index < Dimension.length d) b dimensions)
    (same : ∀ i, (valueAt? dimensions a i).map Value.identifier =
      (valueAt? dimensions b i).map Value.identifier) : a = b := by
  have long : a.length = b.length := within.length_eq.trans withinOther.length_eq.symm
  refine List.ext_getElem long fun i inside insideOther => ?_
  have placed : i < dimensions.length := within.length_eq ▸ inside
  have bound : a[i] < dimensions[i].values.length := within.get inside placed
  have values := same i
  simp only [valueAt?, List.getElem?_eq_getElem placed, List.getElem?_eq_getElem inside,
    List.getElem?_eq_getElem insideOther, Option.bind_eq_bind, Option.bind_some,
    ← List.getElem?_map] at values
  exact (List.getElem?_inj (by simpa using bound) (distinct _ (List.getElem_mem placed))).1 values

theorem Built.combinationAt_eq {cursor : List Nat} (built : Built dimensions e)
    (within : Odometer.Within (dimensions.map Dimension.length) cursor) :
    e.combinationAt cursor = .ok (selected dimensions cursor) := by
  obtain ⟨c, combination, selects⟩ := built.combinationAt_selects (built.sizes_eq ▸ within)
  rw [combination, selects.eq_selected]

theorem performAll_moves_sound {after : Engine σ} {events : List (Event σ)} {calls : List (Call σ)}
    (sound : Sound dimensions e) (performed : e.performAll calls = .ok (events, after)) :
    ∀ m ∈ Event.moves events, Sound dimensions m.engine := by
  induction calls generalizing e events with
  | nil =>
    cases performed
    exact List.forall_mem_nil _
  | cons call calls ih =>
    obtain ⟨first, next, called, performs⟩ := perform_performs sound call
    simp only [performAll, called] at performed
    split at performed
    · cases performed
    next later last followed =>
      cases performed
      rw [Event.moves_append]
      refine List.forall_mem_append.2 ⟨?_, ih (performs.sound sound) followed⟩
      cases performs with
      | looked | hooked => exact List.forall_mem_nil _
      | moved m advances => exact List.forall_mem_singleton.2 advances.sound

theorem performAll_selected {after : Engine σ} {events : List (Event σ)} {calls : List (Call σ)}
    (sound : Sound dimensions e) (performed : e.performAll calls = .ok (events, after)) :
    ((Event.moves events).filter Move.moved).mapM (fun m => m.engine.snapshot) =
      .ok ((((Event.moves events).filter Move.moved).map fun m => m.engine.cursor).map
        (selected dimensions)) := by
  rw [mapM_eq_ok, List.map_map, List.forall₂_map_right_iff, List.forall₂_same]
  intro m member
  have sound := performAll_moves_sound sound performed m (List.mem_of_mem_filter member)
  exact sound.combinationAt_eq (sound.sizes_eq ▸ sound.within)

theorem performAll_reaches (built : Engine.new dimensions = .ok e) (calls : List (Call σ)) :
    ∃ events after, e.performAll calls = .ok (events, after) ∧
      ∃ cursors : List (List Nat),
        ((Event.moves events).filter Move.moved).mapM (fun m => m.engine.snapshot) =
          .ok (cursors.map (selected dimensions)) ∧
        cursors.Nodup ∧ ∀ cursor ∈ cursors,
          Odometer.Within (dimensions.map Dimension.length) cursor := by
  have sound := new_sound built
  obtain ⟨events, after, performed, -, tried, obey⟩ := performAll_obey sound calls
  refine ⟨events, after, performed,
    ((Event.moves events).filter Move.moved).map (fun m => m.engine.cursor), ?_⟩
  -- What is reached has been tried, and no candidate is tried twice.
  have front : ((Event.moves events).filter Move.moved).map (fun m => m.engine.cursor) |>.Sublist
      (Odometer.readings (dimensions.map Dimension.length)) := by
    rw [obey.reached, ← (new_fresh built).1, ← tried]
    exact (List.filter_sublist.map Trial.cursor).trans (List.sublist_append_left ..)
  exact ⟨performAll_selected sound performed, front.nodup (Odometer.nodup_readings _),
    fun cursor member => Odometer.mem_readings.1 (front.subset member)⟩

/-- Two cursors have combinations of the same identifier just when in every dimension they select values
of the same identifier. So where the values of a dimension can be told apart, the combinations that any
calls reach can be told apart. -/
theorem identifiers_separate (built : Engine.new dimensions = .ok e) (plain : Plain dimensions) :
    (∀ a b, Odometer.Within (dimensions.map Dimension.length) a →
      Odometer.Within (dimensions.map Dimension.length) b →
      ∃ c other, e.combinationAt a = .ok c ∧ e.combinationAt b = .ok other ∧
        (c.identifier = other.identifier ↔
          ∀ i, (valueAt? dimensions a i).map Value.identifier =
            (valueAt? dimensions b i).map Value.identifier)) ∧
    ((∀ d ∈ dimensions, (d.values.map Value.identifier).Nodup) → ∀ calls,
      ∃ events after cs, e.performAll calls = .ok (events, after) ∧
        ((Event.moves events).filter Move.moved).mapM (fun m => m.engine.snapshot) = .ok cs ∧
        (cs.map Combination.identifier).Nodup) := by
  have sound := new_sound built
  have selects {cursor : List Nat} (within : Odometer.Within (dimensions.map Dimension.length) cursor) :
      List.Forall₂ (fun index d => index < Dimension.length d) cursor dimensions :=
    List.forall₂_map_right_iff.1 within
  have separate {a b : List Nat} (within : Odometer.Within (dimensions.map Dimension.length) a)
      (withinOther : Odometer.Within (dimensions.map Dimension.length) b) :
      (selected dimensions a).identifier = (selected dimensions b).identifier ↔
        ∀ i, (valueAt? dimensions a i).map Value.identifier =
          (valueAt? dimensions b i).map Value.identifier :=
    (selects_selected (selects within)).identifier_eq_iff (selects_selected (selects withinOther))
      (selects within) (selects withinOther) plain
  constructor
  · intro a b within withinOther
    exact ⟨_, _, sound.combinationAt_eq within, sound.combinationAt_eq withinOther,
      separate within withinOther⟩
  · intro distinct calls
    obtain ⟨events, after, performed, cursors, reached, nodup, within⟩ :=
      performAll_reaches built calls
    refine ⟨events, after, _, performed, reached, ?_⟩
    rw [List.map_map]
    refine nodup.map_on fun a member b memberOther same => ?_
    exact eq_of_identifiers distinct (selects (within a member)) (selects (within b memberOther))
      ((separate (within a member) (within b memberOther)).1 same)

def labels : List Dimension :=
  [⟨"a;b=", [.text "x=1", .text "a b", .null], none, by decide, by simp, by simp⟩,
    ⟨";", [.bool true, .text ""], none, by decide, by simp, by simp⟩]

def labelEngine : Engine σ :=
  ⟨labels, [[none, none, none], [none, none]], [0, 0], true, .pending, false, none⟩

theorem labels_separate :
    (Engine.new labels : Except Error (Engine Nat)) = .ok labelEngine ∧ Plain labels ∧
      (∀ d ∈ labels, (d.values.map Value.identifier).Nodup) ∧
      ∃ (events : List (Event Nat)) (after : Engine Nat) (cs : List Combination),
        labelEngine.performAll (List.replicate 6 .next) = .ok (events, after) ∧
        ((Event.moves events).filter Move.moved).mapM (fun m => m.engine.snapshot) = .ok cs ∧
        (cs.map Combination.identifier).Nodup := by
  have built : (Engine.new labels : Except Error (Engine Nat)) = .ok labelEngine := by cbv
  have plain : Plain labels := by
    unfold Plain
    decide +kernel
  have distinct : ∀ d ∈ labels, (d.values.map Value.identifier).Nodup := by
    decide +kernel
  exact ⟨built, plain, distinct, (identifiers_separate built plain).2 distinct (List.replicate 6 .next)⟩

end Engine

end ParamGrid
