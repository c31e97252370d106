import ParamGrid.Proofs.Engine.Enumeration
import ParamGrid.Proofs.Table

set_option autoImplicit false

namespace ParamGrid

theorem Combination.get?_congr {c other : Combination} (same : c.entries.Perm other.entries)
    (distinct : (c.entries.map Prod.fst).Nodup) : c.get? = other.get? :=
  funext fun name => lookup_congr same distinct name

namespace Engine

variable {σ : Type}

def accepted (dimensions : List Dimension) : List (List Nat) :=
  if dimensions.isEmpty then []
  else (Odometer.readings (dimensions.map Dimension.length)).filter (admits dimensions)

def selected (dimensions : List Dimension) (cursor : List Nat) : Combination :=
  ⟨(dimensions.zip cursor).filterMap fun (d, index) => (d.values[index]?).map (d.name, ·)⟩

theorem mem_accepted {dimensions : List Dimension} {cursor : List Nat} :
    cursor ∈ accepted dimensions ↔
      dimensions ≠ [] ∧ Odometer.Within (dimensions.map Dimension.length) cursor ∧
        admits dimensions cursor = true := by
  rw [accepted]
  split
  next empty => simp [List.isEmpty_iff.1 empty]
  next occupied =>
    have nonempty : dimensions ≠ [] := by simpa using occupied
    rw [List.mem_filter, Odometer.mem_readings, and_iff_right nonempty]

theorem accepted_sorted (dimensions : List Dimension) :
    (accepted dimensions).Pairwise fun a b => place dimensions a < place dimensions b := by
  unfold accepted
  split
  · exact .nil
  · simp only [place_eq_rank]
    exact (Odometer.sorted_readings _).filter _

theorem accepted_nodup (dimensions : List Dimension) : (accepted dimensions).Nodup := by
  unfold accepted
  split
  · exact .nil
  · exact (Odometer.nodup_readings _).filter _

theorem accepted_within {dimensions : List Dimension} {cursor : List Nat}
    (member : cursor ∈ accepted dimensions) :
    List.Forall₂ (fun index d => index < Dimension.length d) cursor dimensions := by
  have within := (mem_accepted.1 member).2.1
  rwa [Odometer.Within, List.forall₂_map_right_iff] at within

theorem Selects.eq_selected {dimensions : List Dimension} {cursor : List Nat} {c : Combination}
    (selects : Selects dimensions cursor c) : c = selected dimensions cursor := by
  have entries : c.entries = (c.entries.map some).filterMap id := by simp
  rw [selects, ← List.map_uncurry_zip_eq_zipWith, List.filterMap_map] at entries
  rw [selected, Combination.mk.injEq]
  exact entries

theorem eq_map_selected {dimensions : List Dimension} {cursors : List (List Nat)}
    {cs : List Combination} (all : List.Forall₂ (Selects dimensions) cursors cs) :
    cs = cursors.map (selected dimensions) := by
  rw [← List.forall₂_eq_eq_eq, List.forall₂_map_right_iff]
  exact (all.imp fun _ _ => Selects.eq_selected).flip

theorem selects_selected {dimensions : List Dimension} {cursor : List Nat}
    (within : List.Forall₂ (fun index d => index < Dimension.length d) cursor dimensions) :
    Selects dimensions cursor (selected dimensions cursor) := by
  obtain ⟨entries, -, selects⟩ := choose_selects within
  exact selects.eq_selected ▸ selects

theorem selected_names {dimensions : List Dimension} {cursor : List Nat}
    (within : List.Forall₂ (fun index d => index < Dimension.length d) cursor dimensions) :
    (selected dimensions cursor).entries.map Prod.fst = dimensions.map Dimension.name := by
  induction within with
  | nil => rfl
  | @cons index d _ _ bound _ ih =>
    have found : d.values[index]? = some d.values[index] := List.getElem?_eq_getElem bound
    simpa [selected, found] using ih

theorem run_accepts {dimensions : List Dimension} {e : Engine σ}
    (built : Engine.new dimensions = .ok e) :
    ∃ r, e.run = .ok r ∧ r.cursors = accepted dimensions ∧
      r.combinations = (accepted dimensions).map (selected dimensions) := by
  have sound := new_sound built
  obtain ⟨fresh, unhooked, -⟩ := new_fresh built
  by_cases empty : dimensions = []
  · have idle : e.isEmpty = true := by simp [isEmpty, sound.dimensions_eq, empty]
    refine ⟨⟨[], [], [], e⟩, ?_, ?_, ?_⟩
    · rw [run_eq (advance_idle (.inl idle))]
      rfl
    · simp [accepted, empty]
    · simp [accepted, empty]
  · obtain ⟨r, ran, cursors, all, -⟩ := run_hands sound unhooked empty
    have whole : r.cursors = accepted dimensions := by
      rw [cursors, ahead, fresh, accepted, if_neg (by simpa using empty)]
    exact ⟨r, ran, whole, whole ▸ eq_map_selected all⟩

theorem accepted_shirts : accepted shirts = [[0, 0], [1, 0], [2, 0], [0, 1]] := by
  cbv

end Engine

end ParamGrid
