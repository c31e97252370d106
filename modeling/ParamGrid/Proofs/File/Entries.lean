import Mathlib
import ParamGrid.Proofs.File.Loading

set_option autoImplicit false

namespace ParamGrid.File

open Yaml (Node Tag)

def HasValue (node : Node) (v : Value) : Prop :=
  ∃ s datum, node = .scalar s ∧ s.datum? = some datum ∧ Value.ofDatum? datum = some v

inductive HasFilter : Node → Option String → Prop where
  | text {s : Yaml.Scalar} {source : String} :
      s.datum? = some (.text source) → HasFilter (.scalar s) (some source)
  | null {s : Yaml.Scalar} : s.datum? = some .null → HasFilter (.scalar s) none

def IsText (node : Node) (text : String) : Prop :=
  ∃ s, node = .scalar s ∧ s.datum? = some (.text text)

theorem ofNode?_eq_some_iff {node : Node} {v : Value} :
    Value.ofNode? node = some v ↔ HasValue node v := by
  cases node with
  | scalar s => simp [Value.ofNode?, HasValue, Option.bind_eq_some_iff]
  | sequence | mapping => simp [Value.ofNode?, HasValue]

theorem filterOfNode?_eq_some_iff {node : Node} {filter : Option String} :
    filterOfNode? node = some filter ↔ HasFilter node filter := by
  constructor
  · intro read
    unfold filterOfNode? at read
    split at read
    next s =>
      split at read
      next null =>
        cases read
        exact .null null
      next source text =>
        cases read
        exact .text text
      · cases read
    · cases read
  · rintro (text | null)
    · rw [filterOfNode?, text]
    · rw [filterOfNode?, null]

theorem ofNode?_of_isText {key : Node} {name : String} (text : IsText key name) :
    EntryPart.ofNode? key =
      if name = "value" ∨ name = "text" then some .value
      else if name = "filter" then some .filter else none := by
  obtain ⟨s, rfl, datum⟩ := text
  rw [EntryPart.ofNode?, datum]

def ValuePair (pair : Node × Node) (v : Value) : Prop :=
  EntryPart.ofNode? pair.1 = some .value ∧ HasValue pair.2 v

def FilterPair (pair : Node × Node) (filter : Option String) : Prop :=
  EntryPart.ofNode? pair.1 = some .filter ∧ HasFilter pair.2 filter

theorem add?_eq_some_iff {parts after : EntryParts} {pair : Node × Node} :
    parts.add? pair = some after ↔
      (parts.value = none ∧ ∃ v, ValuePair pair v ∧ ⟨some v, parts.filter⟩ = after) ∨
        parts.filter = none ∧ ∃ f, FilterPair pair f ∧ ⟨parts.value, some f⟩ = after := by
  unfold EntryParts.add? ValuePair FilterPair
  simp only [← ofNode?_eq_some_iff, ← filterOfNode?_eq_some_iff]
  obtain ⟨value, filter⟩ := parts
  rcases EntryPart.ofNode? pair.1 with _ | _ | _ <;> cases value <;> cases filter <;>
    simp [Option.map_eq_some_iff]

def EntryParts.read? (parts : EntryParts) (pairs : List (Node × Node)) : Option Entry :=
  (pairs.foldlM EntryParts.add? parts).bind EntryParts.complete?

theorem read?_cons_eq_some_iff {parts : EntryParts} {pair : Node × Node} {pairs : List (Node × Node)}
    {e : Entry} :
    parts.read? (pair :: pairs) = some e ↔
      ∃ after, parts.add? pair = some after ∧ after.read? pairs = some e := by
  rw [EntryParts.read?, List.foldlM_cons]
  cases parts.add? pair <;> simp [EntryParts.read?]

section

variable {pairs : List (Node × Node)} {v : Value} {filter : Option String} {e : Entry}

theorem read?_full :
    (EntryParts.mk (some v) (some filter)).read? pairs = some e ↔ pairs = [] ∧ e = ⟨v, filter⟩ := by
  cases pairs with
  | nil => simp [EntryParts.read?, EntryParts.complete?, eq_comm]
  | cons pair pairs => simp [read?_cons_eq_some_iff, add?_eq_some_iff]

theorem read?_value :
    (EntryParts.mk (some v) none).read? pairs = some e ↔
      pairs = [] ∧ e = ⟨v, none⟩ ∨ ∃ q f, pairs = [q] ∧ FilterPair q f ∧ e = ⟨v, f⟩ := by
  cases pairs with
  | nil => simp [EntryParts.read?, EntryParts.complete?, eq_comm]
  | cons pair pairs =>
    simp only [read?_cons_eq_some_iff, add?_eq_some_iff, reduceCtorEq, false_and, false_or, true_and,
      List.cons.injEq]
    constructor
    · rintro ⟨_, ⟨f, holds, rfl⟩, rest⟩
      obtain ⟨rfl, rfl⟩ := read?_full.1 rest
      exact ⟨pair, f, ⟨rfl, rfl⟩, holds, rfl⟩
    · rintro ⟨q, f, ⟨rfl, rfl⟩, holds, rfl⟩
      exact ⟨_, ⟨f, holds, rfl⟩, read?_full.2 ⟨rfl, rfl⟩⟩

theorem read?_filter :
    (EntryParts.mk none (some filter)).read? pairs = some e ↔
      ∃ p v, pairs = [p] ∧ ValuePair p v ∧ e = ⟨v, filter⟩ := by
  cases pairs with
  | nil => simp [EntryParts.read?, EntryParts.complete?]
  | cons pair pairs =>
    simp only [read?_cons_eq_some_iff, add?_eq_some_iff, reduceCtorEq, false_and, or_false, true_and,
      List.cons.injEq]
    constructor
    · rintro ⟨_, ⟨v, holds, rfl⟩, rest⟩
      obtain ⟨rfl, rfl⟩ := read?_full.1 rest
      exact ⟨pair, v, ⟨rfl, rfl⟩, holds, rfl⟩
    · rintro ⟨p, v, ⟨rfl, rfl⟩, holds, rfl⟩
      exact ⟨_, ⟨v, holds, rfl⟩, read?_full.2 ⟨rfl, rfl⟩⟩

theorem read?_none :
    (EntryParts.mk none none).read? pairs = some e ↔
      (∃ p v, pairs = [p] ∧ ValuePair p v ∧ e = ⟨v, none⟩) ∨
        ∃ p q v f, (pairs = [p, q] ∨ pairs = [q, p]) ∧ ValuePair p v ∧ FilterPair q f ∧ e = ⟨v, f⟩ := by
  cases pairs with
  | nil => simp [EntryParts.read?, EntryParts.complete?]
  | cons pair pairs =>
    simp only [read?_cons_eq_some_iff, add?_eq_some_iff, true_and]
    constructor
    · rintro ⟨_, ⟨v, holds, rfl⟩ | ⟨f, holds, rfl⟩, rest⟩
      · rcases read?_value.1 rest with ⟨rfl, rfl⟩ | ⟨q, f, rfl, filter, rfl⟩
        · exact .inl ⟨pair, v, rfl, holds, rfl⟩
        · exact .inr ⟨pair, q, v, f, .inl rfl, holds, filter, rfl⟩
      · obtain ⟨p, v, rfl, value, rfl⟩ := read?_filter.1 rest
        exact .inr ⟨p, pair, v, f, .inr rfl, value, holds, rfl⟩
    · rintro (⟨p, v, same, value, rfl⟩ | ⟨p, q, v, f, same | same, value, filter, rfl⟩) <;> cases same
      · exact ⟨_, .inl ⟨v, value, rfl⟩, read?_value.2 (.inl ⟨rfl, rfl⟩)⟩
      · exact ⟨_, .inl ⟨v, value, rfl⟩, read?_value.2 (.inr ⟨q, f, rfl, filter, rfl⟩)⟩
      · exact ⟨_, .inr ⟨f, filter, rfl⟩, read?_filter.2 ⟨p, v, rfl, value, rfl⟩⟩

end

def Entry.readDetailed? : Node → Option Entry
  | .scalar _ => none
  | .mapping tag pairs => if Entry.refuses tag then none else EntryParts.read? ⟨none, none⟩ pairs
  | .sequence tag items =>
    if Entry.refuses tag then none
    else
      match items with
      | [] => none
      | first :: rest =>
        (Value.ofNode? first).bind fun v =>
          match rest with
          | [] => some ⟨v, none⟩
          | [second] => (filterOfNode? second).map fun f => ⟨v, f⟩
          | _ => none

def Entry.readPlain? (node : Node) : Option Entry :=
  (Value.ofNode? node).map fun v => ⟨v, none⟩

def Entry.readings : List (Node → Option Entry) :=
  [readDetailed?, readPlain?]

theorem ofNode?_eq_findSome? (node : Node) :
    Entry.ofNode? node = Entry.readings.findSome? fun read => read node := by
  have inTurn : (Entry.readings.findSome? fun read => read node) =
      (Entry.readDetailed? node).or (Entry.readPlain? node) := by
    cases detailed : Entry.readDetailed? node <;> simp [Entry.readings, detailed]
  rw [inTurn]
  cases node with
  | scalar s => rfl
  | mapping tag pairs =>
    simp [Entry.ofNode?, Entry.readDetailed?, Entry.readPlain?, Value.ofNode?, EntryParts.read?]
  | sequence tag items =>
    rcases items with _ | ⟨first, _ | ⟨second, _ | ⟨_, _⟩⟩⟩ <;>
      simp [Entry.ofNode?, Entry.readDetailed?, Entry.readPlain?, Value.ofNode?, Option.map_eq_bind]

-- No node has both forms, so the order in which they are tried does not matter.
theorem readPlain?_of_readDetailed? {node : Node} {e : Entry}
    (detailed : Entry.readDetailed? node = some e) : Entry.readPlain? node = none := by
  cases node with
  | scalar s => cases detailed
  | mapping | sequence => rfl

def OwnType (tag : Option Tag) : Prop :=
  ∃ t, tag = some t ∧ t.scope = .file

theorem refuses_iff {tag : Option Tag} : Entry.refuses tag = true ↔ OwnType tag := by
  simp [Entry.refuses, OwnType, Option.any_eq_true]

def IsValueKey (key : Node) : Prop :=
  IsText key "value" ∨ IsText key "text"

/-- The forms of an entry, with what each one says. A node of a type of the file's own has none. -/
inductive Written : Node → Entry → Prop where
  | scalar {s : Yaml.Scalar} {v : Value} : HasValue (.scalar s) v → Written (.scalar s) ⟨v, none⟩
  | single {tag : Option Tag} {node : Node} {v : Value} :
      ¬ OwnType tag → HasValue node v → Written (.sequence tag [node]) ⟨v, none⟩
  | double {tag : Option Tag} {node other : Node} {v : Value} {filter : Option String} :
      ¬ OwnType tag → HasValue node v → HasFilter other filter →
      Written (.sequence tag [node, other]) ⟨v, filter⟩
  | valued {tag : Option Tag} {key node : Node} {v : Value} :
      ¬ OwnType tag → IsValueKey key → HasValue node v → Written (.mapping tag [(key, node)]) ⟨v, none⟩
  | filtered {tag : Option Tag} {pairs : List (Node × Node)} {key node key' other : Node} {v : Value}
      {filter : Option String} :
      ¬ OwnType tag → pairs = [(key, node), (key', other)] ∨ pairs = [(key', other), (key, node)] →
      IsValueKey key → HasValue node v → IsText key' "filter" → HasFilter other filter →
      Written (.mapping tag pairs) ⟨v, filter⟩

def TextKeys (node : Node) : Prop :=
  ∀ tag pairs, node = .mapping tag pairs → ∀ pair ∈ pairs, ∃ name, IsText pair.1 name

theorem IsText.unique {key : Node} {name other : String} (text : IsText key name)
    (also : IsText key other) : name = other := by
  obtain ⟨s, rfl, datum⟩ := text
  obtain ⟨_, same, datum'⟩ := also
  cases same
  rw [datum] at datum'
  cases datum'
  rfl

theorem IsText.iff_eq {key : Node} {name other : String} (text : IsText key name) :
    IsText key other ↔ name = other :=
  ⟨text.unique, fun same => same ▸ text⟩

theorem IsValueKey.isText {key : Node} (valued : IsValueKey key) : ∃ name, IsText key name :=
  valued.elim (fun text => ⟨_, text⟩) fun text => ⟨_, text⟩

theorem part_eq_value_iff {key : Node} (text : ∃ name, IsText key name) :
    EntryPart.ofNode? key = some .value ↔ IsValueKey key := by
  obtain ⟨name, text⟩ := text
  rw [ofNode?_of_isText text, IsValueKey, text.iff_eq, text.iff_eq]
  split
  next value => simp [value]
  next other =>
    have filter : (if name = "filter" then some EntryPart.filter else none) ≠ some .value := by
      split <;> simp
    simp [other, filter]

theorem part_eq_filter_iff {key : Node} (text : ∃ name, IsText key name) :
    EntryPart.ofNode? key = some .filter ↔ IsText key "filter" := by
  obtain ⟨name, text⟩ := text
  rw [ofNode?_of_isText text, text.iff_eq]
  split
  next value => rcases value with rfl | rfl <;> simp
  next => simp

theorem IsValueKey.part {key : Node} (valued : IsValueKey key) :
    EntryPart.ofNode? key = some .value :=
  (part_eq_value_iff valued.isText).2 valued

theorem part_of_filter {key : Node} (text : IsText key "filter") :
    EntryPart.ofNode? key = some .filter :=
  (part_eq_filter_iff ⟨_, text⟩).2 text

theorem ofNode?_mapping_eq_some_iff {tag : Option Tag} {pairs : List (Node × Node)} {e : Entry} :
    Entry.ofNode? (.mapping tag pairs) = some e ↔
      ¬ OwnType tag ∧ (EntryParts.mk none none).read? pairs = some e := by
  rw [← refuses_iff, Entry.ofNode?]
  cases Entry.refuses tag <;> simp [EntryParts.read?]

theorem ofNode?_sequence_eq_some_iff {tag : Option Tag} {items : List Node} {e : Entry} :
    Entry.ofNode? (.sequence tag items) = some e ↔
      ¬ OwnType tag ∧
        ((∃ node v, items = [node] ∧ HasValue node v ∧ ⟨v, none⟩ = e) ∨
          ∃ node other v filter, items = [node, other] ∧ HasValue node v ∧ HasFilter other filter ∧
            ⟨v, filter⟩ = e) := by
  simp only [← refuses_iff, ← ofNode?_eq_some_iff, ← filterOfNode?_eq_some_iff]
  rcases items with _ | ⟨node, _ | ⟨other, _ | ⟨_, _⟩⟩⟩ <;> cases refused : Entry.refuses tag <;>
    simp [Entry.ofNode?, refused, Option.bind_eq_some_iff, and_assoc]

theorem written_iff {node : Node} {e : Entry} (keys : TextKeys node) :
    Entry.ofNode? node = some e ↔ Written node e := by
  cases node with
  | scalar s =>
    rw [Entry.ofNode?, Option.map_eq_some_iff]
    simp only [ofNode?_eq_some_iff]
    constructor
    · rintro ⟨v, value, rfl⟩
      exact .scalar value
    · rintro ⟨value⟩
      exact ⟨_, value, rfl⟩
  | sequence tag items =>
    rw [ofNode?_sequence_eq_some_iff]
    constructor
    · rintro ⟨common, ⟨node, v, rfl, value, rfl⟩ | ⟨node, other, v, filter, rfl, value, holds, rfl⟩⟩
      · exact .single common value
      · exact .double common value holds
    · rintro (_ | ⟨common, value⟩ | ⟨common, value, holds⟩)
      · exact ⟨common, .inl ⟨_, _, rfl, value, rfl⟩⟩
      · exact ⟨common, .inr ⟨_, _, _, _, rfl, value, holds, rfl⟩⟩
  | mapping tag pairs =>
    have text := keys tag pairs rfl
    rw [ofNode?_mapping_eq_some_iff, read?_none]
    constructor
    · rintro ⟨common, ⟨p, v, rfl, value, rfl⟩ | ⟨p, q, v, f, same, value, holds, rfl⟩⟩
      · have valued := (part_eq_value_iff (text p (by simp))).1 value.1
        exact .valued common valued value.2
      · have both : p ∈ pairs ∧ q ∈ pairs := by rcases same with rfl | rfl <;> simp
        have valued := (part_eq_value_iff (text p both.1)).1 value.1
        have filtered := (part_eq_filter_iff (text q both.2)).1 holds.1
        exact .filtered common same valued value.2 filtered holds.2
    · rintro (_ | _ | _ | ⟨common, key, value⟩ | ⟨common, same, key, value, key', holds⟩)
      · exact ⟨common, .inl ⟨_, _, rfl, ⟨key.part, value⟩, rfl⟩⟩
      · have filtered := part_of_filter key'
        exact ⟨common, .inr ⟨_, _, _, _, same, ⟨key.part, value⟩, ⟨filtered, holds⟩, rfl⟩⟩

inductive Malformed (pairs : List (Node × Node)) : Prop where
  | unknownKey {pair : Node × Node} {name : String} :
      pair ∈ pairs → IsText pair.1 name → name ∉ ["value", "text", "filter"] → Malformed pairs
  | valueAndText {a b : Node × Node} :
      a ∈ pairs → IsText a.1 "value" → b ∈ pairs → IsText b.1 "text" → Malformed pairs
  | repeatedKey {a b : Node × Node} {name : String} :
      [a, b].Sublist pairs → IsText a.1 name → IsText b.1 name → Malformed pairs
  | otherFilter {pair : Node × Node} :
      pair ∈ pairs → IsText pair.1 "filter" → (∀ filter, ¬ HasFilter pair.2 filter) → Malformed pairs
  | nestedValue {pair : Node × Node} :
      pair ∈ pairs → IsValueKey pair.1 → (∀ s, pair.2 ≠ .scalar s) → Malformed pairs

theorem parts_of_read? {pairs : List (Node × Node)} {e : Entry}
    (read : (EntryParts.mk none none).read? pairs = some e) :
    (∀ pair ∈ pairs, (∃ v, ValuePair pair v) ∨ ∃ f, FilterPair pair f) ∧
      pairs.Pairwise fun a b => EntryPart.ofNode? a.1 ≠ EntryPart.ofNode? b.1 := by
  rcases read?_none.1 read with ⟨p, v, rfl, value, -⟩ | ⟨p, q, v, f, same, value, filter, -⟩
  · exact ⟨by simpa using .inl ⟨v, value⟩, by simp⟩
  · have different : EntryPart.ofNode? p.1 ≠ EntryPart.ofNode? q.1 := by
      rw [value.1, filter.1]
      simp
    rcases same with rfl | rfl
    · exact ⟨by simpa using ⟨.inl ⟨v, value⟩, .inr ⟨f, filter⟩⟩, by simpa using different⟩
    · exact ⟨by simpa using ⟨.inr ⟨f, filter⟩, .inl ⟨v, value⟩⟩, by simpa using different.symm⟩

theorem ofNode?_malformed {tag : Option Tag} {pairs : List (Node × Node)}
    (malformed : Malformed pairs) : Entry.ofNode? (.mapping tag pairs) = none := by
  refine Option.eq_none_iff_forall_ne_some.2 fun e read => ?_
  obtain ⟨known, distinct⟩ := parts_of_read? (ofNode?_mapping_eq_some_iff.1 read).2
  cases malformed with
  | @unknownKey pair name member text unknown =>
    have none : EntryPart.ofNode? pair.1 = none := by
      rw [ofNode?_of_isText text]
      simp only [List.mem_cons, List.not_mem_nil, or_false, not_or] at unknown
      simp [unknown]
    rcases known pair member with ⟨_, part, -⟩ | ⟨_, part, -⟩ <;> simp [none] at part
  | @valueAndText a b first text second text' =>
    have : Std.Symm fun a b : Node × Node => EntryPart.ofNode? a.1 ≠ EntryPart.ofNode? b.1 :=
      ⟨fun _ _ => Ne.symm⟩
    have other : a ≠ b := by
      rintro rfl
      exact absurd (text.unique text') (by decide)
    have valued : IsValueKey a.1 := .inl text
    have valued' : IsValueKey b.1 := .inr text'
    exact distinct.forall first second other (valued.part.trans valued'.part.symm)
  | repeatedKey both text text' =>
    have differ := distinct.sublist both
    simp [ofNode?_of_isText text, ofNode?_of_isText text'] at differ
  | otherFilter member text holds =>
    rcases known _ member with ⟨_, part, -⟩ | ⟨f, -, filter⟩
    · rw [part_of_filter text] at part
      cases part
    · exact holds f filter
  | nestedValue member valued nested =>
    rcases known _ member with ⟨_, -, s, _, scalar, -⟩ | ⟨_, part, -⟩
    · exact nested s scalar
    · rw [valued.part] at part
      cases part

def Field (node : Node) (name : String) (value : Node) : Prop :=
  ∃ tag pairs key, node = .mapping tag pairs ∧ (key, value) ∈ pairs ∧ text? key = some name

def Item (node item : Node) : Prop :=
  ∃ tag items, node = .sequence tag items ∧ item ∈ items

def InBlock (block entry : Node) : Prop :=
  ∃ record values, Item block record ∧ Field record "values" values ∧ Item values entry

inductive EntryOf (root entry : Node) : Prop where
  | top {block : Node} : Field root "combinations" block → InBlock block entry → EntryOf root entry
  | test {tests test block : Node} {name : String} :
      Field root "tests" tests → Field tests name test → Field test "combinations" block →
      InBlock block entry → EntryOf root entry

theorem exists_of_mapM {α β : Type} {f : α → Option β} {xs : List α} {ys : List β}
    (done : xs.mapM f = some ys) {x : α} (member : x ∈ xs) : ∃ y, f x = some y := by
  induction xs generalizing ys with
  | nil => cases member
  | cons a xs ih =>
    simp only [List.mapM_cons, Option.bind_eq_bind, Option.bind_eq_some_iff] at done
    obtain ⟨b, first, bs, rest, -⟩ := done
    rcases List.mem_cons.1 member with rfl | member
    · exact ⟨b, first⟩
    · exact ih rest member

theorem lookup_fields? {known : List String} (distinct : known.Nodup) {pairs : List (Node × Node)}
    {fields : List (String × Node)} (read : fields? known pairs = some fields) {key value : Node}
    (member : (key, value) ∈ pairs) {name : String} (text : text? key = some name) :
    name ∈ known ∧ fields.lookup name = some value := by
  induction pairs generalizing known fields with
  | nil => cases member
  | cons pair pairs ih =>
    obtain ⟨first, v⟩ := pair
    simp only [fields?, Option.bind_eq_bind, Option.bind_eq_some_iff] at read
    obtain ⟨other, written, read⟩ := read
    split at read
    next known' =>
      simp only [Option.bind_eq_some_iff, Option.some.injEq] at read
      obtain ⟨rest, read, rfl⟩ := read
      rcases List.mem_cons.1 member with same | member
      · cases same
        rw [written] at text
        cases text
        exact ⟨known', by simp⟩
      · obtain ⟨later, found⟩ := ih (distinct.erase other) read member
        have different : name ≠ other := by
          rintro rfl
          exact distinct.not_mem_erase later
        refine ⟨List.mem_of_mem_erase later, ?_⟩
        rw [List.lookup_cons, beq_false_of_ne different]
        exact found
    · cases read

theorem lookup_record? {known : List String} (distinct : known.Nodup) {node value : Node}
    {fields : List (String × Node)} (read : record? known node = some fields) {name : String}
    (field : Field node name value) : fields.lookup name = some value := by
  obtain ⟨tag, pairs, key, rfl, member, text⟩ := field
  exact (lookup_fields? distinct read member text).2

theorem exists_of_items {α : Type} {f : Node → Option α} {node item : Node} {items : List Node}
    {all : List α} (listed : items? node = some items) (done : items.mapM f = some all)
    (member : Item node item) : ∃ a, f item = some a := by
  obtain ⟨tag, items', rfl, member⟩ := member
  cases listed
  exact exists_of_mapM done member

theorem exists_of_record {record values entry : Node} {r : DimensionRecord}
    (read : DimensionRecord.ofNode? record = some r) (field : Field record "values" values)
    (member : Item values entry) : ∃ e, Entry.ofNode? entry = some e := by
  simp only [DimensionRecord.ofNode?, Option.bind_eq_bind, Option.bind_eq_some_iff] at read
  obtain ⟨fields, read, _, -, _, -, node, found, items, listed, entries, decoded, -⟩ := read
  rw [lookup_record? (by decide) read field] at found
  cases found
  exact exists_of_items listed decoded member

theorem exists_of_block {block entry : Node} {records : Block}
    (read : blockOfNode? block = some records) (within : InBlock block entry) :
    ∃ e, Entry.ofNode? entry = some e := by
  obtain ⟨record, values, member, field, last⟩ := within
  simp only [blockOfNode?, Option.bind_eq_bind, Option.bind_eq_some_iff] at read
  obtain ⟨items, listed, decoded⟩ := read
  obtain ⟨r, read⟩ := exists_of_items listed decoded member
  exact exists_of_record read field last

theorem exists_of_top {block entry : Node} {top : Option Block} (read : topOfNode? block = some top)
    (within : InBlock block entry) : ∃ e, Entry.ofNode? entry = some e := by
  have ⟨_, _, ⟨tag, items, same, _⟩, _⟩ := within
  subst same
  obtain ⟨records, read, -⟩ := Option.map_eq_some_iff.1 read
  exact exists_of_block read within

theorem exists_of_test {test block entry : Node} {records : Block}
    (read : testOfNode? test = some records) (field : Field test "combinations" block)
    (within : InBlock block entry) : ∃ e, Entry.ofNode? entry = some e := by
  simp only [testOfNode?, Option.bind_eq_bind, Option.bind_eq_some_iff] at read
  obtain ⟨fields, read, node, found, decoded⟩ := read
  rw [lookup_record? (by decide) read field] at found
  cases found
  exact exists_of_block decoded within

theorem fields_of_file {root : Node} {file : File} (read : ofNode? root = some file) :
    ∃ fields, record? ["combinations", "tests"] root = some fields ∧
      (∀ node, fields.lookup "combinations" = some node → ∃ top, topOfNode? node = some top) ∧
      ∀ node, fields.lookup "tests" = some node →
        ∃ pairs tests, pairs? node = some pairs ∧ pairs.mapM testOfPair? = some tests := by
  simp only [ofNode?, Option.bind_eq_bind, Option.bind_eq_some_iff] at read
  obtain ⟨fields, read, rest⟩ := read
  refine ⟨fields, read, ?_⟩
  -- A field that is missing says nothing, and one that is there has been read.
  cases first : fields.lookup "combinations" <;> cases second : fields.lookup "tests" <;>
    simp only [first, second, Option.bind_eq_some_iff] at rest
  case none.none => simp
  case none.some tests =>
    obtain ⟨_, -, pairs, listed, all, decoded, -⟩ := rest
    refine ⟨by simp, fun node found => ?_⟩
    cases found
    exact ⟨pairs, all, listed, decoded⟩
  case some.none node =>
    obtain ⟨top, read, -⟩ := rest
    exact ⟨fun node found => by cases found; exact ⟨top, read⟩, by simp⟩
  case some.some =>
    obtain ⟨top, read, pairs, listed, all, decoded, -⟩ := rest
    refine ⟨fun node found => ?_, fun node found => ?_⟩ <;> cases found
    · exact ⟨top, read⟩
    · exact ⟨pairs, all, listed, decoded⟩

theorem exists_of_file {root entry : Node} {file : File} (read : ofNode? root = some file)
    (within : EntryOf root entry) : ∃ e, Entry.ofNode? entry = some e := by
  obtain ⟨fields, read, top, tests⟩ := fields_of_file read
  cases within with
  | top field within =>
    obtain ⟨top, read⟩ := top _ (lookup_record? (by decide) read field)
    exact exists_of_top read within
  | test field named combinations within =>
    obtain ⟨pairs, all, listed, decoded⟩ := tests _ (lookup_record? (by decide) read field)
    obtain ⟨tag, pairs', key, rfl, member, -⟩ := named
    cases listed
    obtain ⟨pair, read⟩ := exists_of_mapM decoded member
    simp only [testOfPair?, Option.bind_eq_bind, Option.bind_eq_some_iff] at read
    obtain ⟨_, -, records, read, -⟩ := read
    exact exists_of_test read combinations within

theorem read?_of_refused {source : String} {root entry : Node} (parsed : Yaml.read? source = some root)
    (within : EntryOf root entry) (refused : Entry.ofNode? entry = none) :
    read? source = .error .undecodable := by
  rw [read?, parsed]
  cases decoded : ofNode? root with
  | none => simp [decoded]
  | some file =>
    obtain ⟨e, read⟩ := exists_of_file decoded within
    rw [refused] at read
    cases read

/-- An entry is what its form says, with the filter that stands in it, and a file with an entry of no
form cannot be loaded at all; such an entry is every mapping with a key that no part has, a part that
comes twice, a filter that is no text or a value that is a collection. -/
theorem entries_keep_their_rules {node : Node} (keys : TextKeys node) :
    (∀ e, Entry.ofNode? node = some e ↔ Written node e) ∧
      (∀ tag pairs, node = .mapping tag pairs → Malformed pairs → ∀ e, ¬ Written node e) ∧
      ∀ source root, Yaml.read? source = some root → EntryOf root node → (∀ e, ¬ Written node e) →
        blockNamesOf source = .error (.load .undecodable) ∧
          ∀ test, (loadDimensions source test).result = .error (.load .undecodable) := by
  refine ⟨fun e => written_iff keys, ?_, ?_⟩
  · rintro tag pairs rfl malformed e written
    have read := (written_iff keys).2 written
    rw [ofNode?_malformed malformed] at read
    cases read
  · intro source root parsed within formless
    have refused : Entry.ofNode? node = none :=
      Option.eq_none_iff_forall_ne_some.2 fun e read => formless e ((written_iff keys).1 read)
    have undecodable := read?_of_refused parsed within refused
    refine ⟨by rw [blockNamesOf, undecodable]; rfl, fun test => ?_⟩
    rw [loadDimensions, Log.Logged.result_bind, Log.Logged.result_ofResult, undecodable]
    rfl

def plain (text : String) : Node := .scalar ⟨text, true, none⟩

def filterFirst : Node :=
  .mapping none [(plain "filter", plain "B==0"), (plain "text", plain "x")]

def misspelled : Node :=
  .mapping none [(plain "value", plain "x"), (plain "fliter", plain "y")]

def misspelledRecord : Node :=
  .mapping none [(plain "name", plain "A"), (plain "values", .sequence none [misspelled])]

def misspelledRoot : Node :=
  .mapping none [(plain "combinations", .sequence none [misspelledRecord])]

def misspelledSource : String :=
  "combinations: [\x7bname: A, values: [\x7bvalue: x, fliter: y\x7d]\x7d]"

theorem misspelled_filter_refuses_file :
    (TextKeys filterFirst ∧ Entry.ofNode? filterFirst = some ⟨.text "x", some "B==0"⟩) ∧
      TextKeys misspelled ∧ (∀ e, ¬ Written misspelled e) ∧
        Yaml.read? misspelledSource = some misspelledRoot ∧ EntryOf misspelledRoot misspelled ∧
        ∀ test, (loadDimensions misspelledSource test).result = .error (.load .undecodable) := by
  have key : ∀ {text : String}, Yaml.plainDatum text = .text text → IsText (plain text) text :=
    fun datum => ⟨_, rfl, by rw [Yaml.Scalar.datum?, ← datum]; rfl⟩
  have value : IsText (plain "value") "value" := key (by cbv)
  have text : IsText (plain "text") "text" := key (by cbv)
  have filter : IsText (plain "filter") "filter" := key (by cbv)
  have fliter : IsText (plain "fliter") "fliter" := key (by cbv)
  have filterKeys : TextKeys filterFirst := by
    rintro _ _ ⟨⟩
    simpa using ⟨⟨_, filter⟩, ⟨_, text⟩⟩
  have misspelledKeys : TextKeys misspelled := by
    rintro _ _ ⟨⟩
    simpa using ⟨⟨_, value⟩, ⟨_, fliter⟩⟩
  refine ⟨⟨filterKeys, ?_⟩, misspelledKeys, ?_⟩
  · have own : ¬ OwnType none := by simp [OwnType]
    have chosen : HasValue (plain "x") (.text "x") := ⟨_, _, rfl, by cbv, rfl⟩
    have rule : HasFilter (plain "B==0") (some "B==0") := .text (by cbv)
    exact ((entries_keep_their_rules filterKeys).1 _).2
      (.filtered own (.inr rfl) (.inr text) chosen filter rule)
  · obtain ⟨-, formless, refuses⟩ := entries_keep_their_rules misspelledKeys
    have malformed := formless _ _ rfl
      (.unknownKey (List.mem_cons_of_mem _ List.mem_cons_self) fliter (by decide))
    have parsed : Yaml.read? misspelledSource = some misspelledRoot := by cbv
    have within : InBlock (.sequence none [misspelledRecord]) misspelled :=
      ⟨misspelledRecord, _, ⟨_, _, rfl, List.mem_cons_self⟩,
        ⟨_, _, _, rfl, List.mem_cons_of_mem _ List.mem_cons_self, rfl⟩, ⟨_, _, rfl, List.mem_cons_self⟩⟩
    have entry : EntryOf misspelledRoot misspelled := .top ⟨_, _, _, rfl, List.mem_cons_self, rfl⟩ within
    exact ⟨malformed, parsed, entry, (refuses _ _ parsed entry malformed).2⟩

end ParamGrid.File
