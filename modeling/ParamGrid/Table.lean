set_option autoImplicit false

namespace ParamGrid

structure Table (α : Type) where
  entries : List (String × α)
  sorted : entries.Pairwise fun a b => a.1 < b.1

namespace Table

variable {α : Type}

def empty : Table α := ⟨[], .nil⟩

def putEntry (name : String) (value : α) : List (String × α) → List (String × α)
  | [] => [(name, value)]
  | entry :: rest =>
    if name < entry.1 then (name, value) :: entry :: rest
    else if name = entry.1 then (name, value) :: rest
    else entry :: putEntry name value rest

theorem mem_putEntry {name : String} {value : α} {entries : List (String × α)} {e : String × α}
    (h : e ∈ putEntry name value entries) : e = (name, value) ∨ e ∈ entries := by
  induction entries with
  | nil => simpa [putEntry] using h
  | cons entry rest ih =>
    unfold putEntry at h
    split at h
    · simpa using h
    · split at h
      · simp only [List.mem_cons] at h ⊢
        exact h.imp_right .inr
      · simp only [List.mem_cons] at h ⊢
        rcases h with rfl | h
        · exact .inr (.inl rfl)
        · rcases ih h with rfl | h
          · exact .inl rfl
          · exact .inr (.inr h)

theorem sorted_putEntry (name : String) (value : α) (entries : List (String × α))
    (sorted : entries.Pairwise fun a b => a.1 < b.1) :
    (putEntry name value entries).Pairwise fun a b => a.1 < b.1 := by
  induction entries with
  | nil => simp [putEntry]
  | cons entry rest ih =>
    rw [List.pairwise_cons] at sorted
    unfold putEntry
    split
    next before =>
      refine List.pairwise_cons.2 ⟨fun e h => ?_, List.pairwise_cons.2 sorted⟩
      rcases List.mem_cons.1 h with rfl | h
      · exact before
      · exact String.lt_trans before (sorted.1 e h)
    · split
      next same => exact List.pairwise_cons.2 ⟨fun e h => same ▸ sorted.1 e h, sorted.2⟩
      next notBefore different =>
        refine List.pairwise_cons.2 ⟨fun e h => ?_, ih sorted.2⟩
        rcases mem_putEntry h with rfl | h
        · exact String.not_le.1 fun le =>
            different (String.le_antisymm le (String.not_lt.1 notBefore))
        · exact sorted.1 e h

def put (t : Table α) (name : String) (value : α) : Table α :=
  ⟨putEntry name value t.entries, sorted_putEntry name value t.entries t.sorted⟩

def get? (t : Table α) (name : String) : Option α :=
  t.entries.lookup name

def names (t : Table α) : List String :=
  t.entries.map Prod.fst

def putAll (t : Table α) (entries : List (String × α)) : Table α :=
  entries.foldl (fun t e => t.put e.1 e.2) t

def ofList (entries : List (String × α)) : Table α :=
  empty.putAll entries

end Table

end ParamGrid
