import ParamGrid.Cli.Run
import ParamGrid.Proofs.Engine.Identifier
import ParamGrid.Proofs.Engine.Safety
import ParamGrid.Proofs.Value

set_option autoImplicit false

namespace ParamGrid

theorem mapM_map_of_inverse {α β : Type} {write : α → β} {read : β → Option α}
    (inverse : ∀ x, read (write x) = some x) (xs : List α) : (xs.map write).mapM read = some xs := by
  induction xs with
  | nil => rfl
  | cons x xs ih =>
    rw [List.map_cons, List.mapM_cons, inverse, ih]
    rfl

namespace Combination

def entryOfJson? (member : String × Json) : Option (String × Value) :=
  (Value.ofJson? member.2).map fun value => (member.1, value)

def ofJson? : Json → Option Combination
  | .object members => (members.mapM entryOfJson?).map Combination.mk
  | _ => none

theorem entryOfJson?_toJson (entry : String × Value) :
    entryOfJson? (entry.1, entry.2.toJson) = some entry := by
  rw [entryOfJson?, Value.ofJson?_toJson]
  rfl

theorem ofJson?_toJson (c : Combination) : ofJson? c.toJson = some c :=
  congrArg (Option.map Combination.mk) (mapM_map_of_inverse entryOfJson?_toJson c.entries)

theorem whole_toJson {c : Combination} (noFloats : ∀ entry ∈ c.entries, ∀ x, entry.2 ≠ .float x) :
    c.toJson.Whole := by
  refine .object fun member listed => ?_
  obtain ⟨entry, among, rfl⟩ := List.mem_map.1 listed
  exact Value.whole_toJson (noFloats entry among)

end Combination

namespace Cli

open Engine

variable {σ : Type} {dimensions : List Dimension} {e : Engine σ}

def readCombinations? (text : String) : Option (List Combination) :=
  match Json.read? text with
  | some (.list items) => items.mapM Combination.ofJson?
  | _ => none

structure ReadsBack (dimensions : List Dimension) (cs : List Combination) : Prop where
  names : ∀ c ∈ cs, c.entries.map Prod.fst = dimensions.map Dimension.name
  printed : readCombinations? (listText .json cs) = some cs
  compact : readCombinations? (Json.list (cs.map Combination.toJson)).compact = some cs

theorem whole_list {cs : List Combination}
    (noFloats : ∀ c ∈ cs, ∀ entry ∈ c.entries, ∀ x, entry.2 ≠ .float x) :
    (Json.list (cs.map Combination.toJson)).Whole := by
  refine .list fun item listed => ?_
  obtain ⟨c, member, rfl⟩ := List.mem_map.1 listed
  exact Combination.whole_toJson (noFloats c member)

theorem readCombinations?_of_read? {text : String} {cs : List Combination}
    (read : Json.read? text = some (.list (cs.map Combination.toJson))) :
    readCombinations? text = some cs := by
  rw [readCombinations?, read]
  exact mapM_map_of_inverse Combination.ofJson?_toJson cs

theorem readsBack_selected {cursors : List (List Nat)}
    (noFloats : ∀ d ∈ dimensions, ∀ value ∈ d.values, ∀ x, value ≠ .float x)
    (within : ∀ cursor ∈ cursors, Odometer.Within (dimensions.map Dimension.length) cursor) :
    ReadsBack dimensions (cursors.map (selected dimensions)) := by
  have indexes : ∀ cursor ∈ cursors,
      List.Forall₂ (fun index d => index < Dimension.length d) cursor dimensions :=
    fun cursor member => List.forall₂_map_right_iff.1 (within cursor member)
  have whole : (Json.list ((cursors.map (selected dimensions)).map Combination.toJson)).Whole := by
    refine whole_list (List.forall_mem_map.2 fun cursor member entry among => ?_)
    obtain ⟨d, listed, value⟩ := (selects_selected (indexes cursor member)).mem_values among
    exact noFloats d listed _ value
  exact
    { names := List.forall_mem_map.2 fun cursor member => selected_names (indexes cursor member)
      printed := readCombinations?_of_read? (Json.read?_pretty whole)
      compact := readCombinations?_of_read? (Json.read?_compact whole) }

theorem performAll_readsBack {after : Engine σ} {events : List (Event σ)} {calls : List (Call σ)}
    (noFloats : ∀ d ∈ dimensions, ∀ value ∈ d.values, ∀ x, value ≠ .float x)
    (sound : Sound dimensions e) (performed : e.performAll calls = .ok (events, after)) :
    ∃ cs, ((Event.moves events).filter Move.moved).mapM (fun m => m.engine.snapshot) = .ok cs ∧
      ReadsBack dimensions cs := by
  refine ⟨_, performAll_selected sound performed, readsBack_selected noFloats ?_⟩
  refine List.forall_mem_map.2 fun m member => ?_
  have sound := performAll_moves_sound sound performed m (List.mem_of_mem_filter member)
  exact sound.sizes_eq ▸ sound.within

theorem printed_combinations_read_back (built : Engine.new dimensions = .ok e)
    (noFloats : ∀ d ∈ dimensions, ∀ value ∈ d.values, ∀ x, value ≠ .float x) (calls : List (Call σ)) :
    (∀ j, Value.ofJson? j = Value.readings.findSome? fun read => read j) ∧
      ∃ events after cs r, e.performAll calls = .ok (events, after) ∧
        ((Event.moves events).filter Move.moved).mapM (fun m => m.engine.snapshot) = .ok cs ∧
        ReadsBack dimensions cs ∧ after.run = .ok r ∧ ReadsBack dimensions r.combinations := by
  have sound := new_sound built
  obtain ⟨events, after, performed, soundAfter, -⟩ := performAll_obey sound calls
  -- A run is calls as well, so one lemma about calls serves both lists.
  obtain ⟨cs, reached, readsBack⟩ := performAll_readsBack noFloats sound performed
  obtain ⟨r, _, _, ran, performs, reachedLater⟩ := run_performs soundAfter
  obtain ⟨_, same, readsBackLater⟩ := performAll_readsBack noFloats soundAfter performs
  cases reachedLater.symm.trans same
  exact ⟨Value.ofJson?_eq_findSome?, events, after, cs, r, performed, reached, readsBack, ran,
    readsBackLater⟩

def oddities : List Dimension :=
  [⟨"a \"name\"\n", [.text "1", .text "true", .text "null", .text "", .null, .bool true], none,
      by decide, by simp, by simp⟩,
    ⟨"\\", [.int Int64.minValue, .int Int64.maxValue, .text "\x01\\\"é"], none, by decide, by simp,
      by simp⟩]

def oddEngine : Engine σ :=
  ⟨oddities, [List.replicate 6 none, List.replicate 3 none], [0, 0], true, .pending, false, none⟩

theorem oddities_read_back :
    (Engine.new oddities : Except Error (Engine Nat)) = .ok oddEngine ∧
      (∀ d ∈ oddities, ∀ value ∈ d.values, ∀ x, value ≠ .float x) ∧
      ∃ (events : List (Event Nat)) (after : Engine Nat) (cs : List Combination) (r : Run Nat),
        oddEngine.performAll [.next, .advance] = .ok (events, after) ∧
        ((Event.moves events).filter Move.moved).mapM (fun m => m.engine.snapshot) = .ok cs ∧
        ReadsBack oddities cs ∧ after.run = .ok r ∧ ReadsBack oddities r.combinations := by
  have built : (Engine.new oddities : Except Error (Engine Nat)) = .ok oddEngine := by cbv
  have noFloats : ∀ d ∈ oddities, ∀ value ∈ d.values, ∀ x, value ≠ .float x := by simp [oddities]
  exact ⟨built, noFloats, (printed_combinations_read_back built noFloats [.next, .advance]).2⟩

end Cli

end ParamGrid
