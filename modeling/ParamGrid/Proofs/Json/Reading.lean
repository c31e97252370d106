import ParamGrid.Proofs.Json.Layout
import ParamGrid.Proofs.Json.Scalars

set_option autoImplicit false

namespace ParamGrid.Json

def Blank (text : List Char) : Prop :=
  ∀ c ∈ text, isBlank c = true

inductive Phrase where
  | value (j : Json)
  | items (items : List Json)
  | members (members : List (String × Json))

/-- The texts of documents without doubles. Blanks may stand around the tokens inside brackets; items
and members come one at a time, and only the last one has the closing bracket behind it. -/
inductive Spells : Phrase → List Char → Prop where
  | null : Spells (.value .null) "null".toList
  | bool (b : Bool) : Spells (.value (.bool b)) (if b then "true" else "false").toList
  | int (n : Int64) : Spells (.value (.int n)) (intChars n.toInt)
  | string (s : String) : Spells (.value (.string s)) (textChars s)
  | emptyList : Spells (.value (.list [])) ['[', ']']
  | list {items : List Json} {text : List Char} :
      Spells (.items items) text → Spells (.value (.list items)) ('[' :: text)
  | emptyObject : Spells (.value (.object [])) ['\x7b', '\x7d']
  | object {members : List (String × Json)} {text : List Char} :
      Spells (.members members) text → Spells (.value (.object members)) ('\x7b' :: text)
  | lastItem {item : Json} {before text after : List Char} :
      Blank before → Spells (.value item) text → Blank after →
      Spells (.items [item]) (before ++ (text ++ (after ++ [']'])))
  | item {item : Json} {items : List Json} {before text after rest : List Char} :
      Blank before → Spells (.value item) text → Blank after → Spells (.items items) rest →
      Spells (.items (item :: items)) (before ++ (text ++ (after ++ ',' :: rest)))
  | lastMember {name : String} {value : Json} {before gap text after : List Char} :
      Blank before → Blank gap → Spells (.value value) text → Blank after →
      Spells (.members [(name, value)])
        (before ++ (textChars name ++ ':' :: (gap ++ (text ++ (after ++ ['\x7d'])))))
  | member {name : String} {value : Json} {members : List (String × Json)}
      {before gap text after rest : List Char} :
      Blank before → Blank gap → Spells (.value value) text → Blank after →
      Spells (.members members) rest →
      Spells (.members ((name, value) :: members))
        (before ++ (textChars name ++ ':' :: (gap ++ (text ++ (after ++ ',' :: rest)))))

theorem Blank.nil : Blank [] :=
  nofun

theorem blank_singleton (c : Char) (blank : isBlank c = true) : Blank [c] :=
  List.forall_mem_singleton.2 blank

theorem Blank.append {before after : List Char} (blank : Blank before) (blankAfter : Blank after) :
    Blank (before ++ after) :=
  List.forall_mem_append.2 ⟨blank, blankAfter⟩

theorem skipBlanks_append {before : List Char} (blank : Blank before) (rest : List Char) :
    skipBlanks (before ++ rest) = skipBlanks rest :=
  List.dropWhile_append_of_pos blank

theorem skipBlanks_cons {c : Char} (visible : isBlank c = false) (rest : List Char) :
    skipBlanks (c :: rest) = c :: rest := by
  simp [skipBlanks, visible]

theorem Blank.ends {after rest : List Char} (blank : Blank after) (ends : Ends rest) :
    Ends (after ++ rest) := by
  cases after with
  | nil => exact ends
  | cons c after =>
    have first := blank c List.mem_cons_self
    simp only [isBlank, Bool.or_eq_true, decide_eq_true_eq] at first
    refine Ends.cons ?_ ?_ ?_ ?_ _ <;> rcases first with ((rfl | rfl) | rfl) | rfl <;> decide

theorem readValue?_blank {before : List Char} (blank : Blank before) (depth : Nat)
    (text : List Char) : readValue? depth (before ++ text) = readValue? depth text := by
  cases depth with
  | zero => rfl
  | succ depth => rw [readValue?, readValue?, skipBlanks_append blank]

theorem intChars_eq_cons (n : Int) :
    ∃ c digits, intChars n = c :: digits ∧ (c = '-' ∨ c.isDigit = true) := by
  rw [intChars]
  split
  · exact ⟨_, _, rfl, .inl rfl⟩
  · obtain ⟨c, digits, same⟩ :=
      List.exists_cons_of_ne_nil (Nat.toDigits_ne_nil (n := n.natAbs) (b := 10))
    have member : c ∈ Nat.toDigits 10 n.natAbs := by simp [same]
    exact ⟨c, digits, same, .inr (Nat.isDigit_of_mem_toDigits (by decide) (by decide) member)⟩

theorem ne_of_starts_number {c : Char} (starts : c = '-' ∨ c.isDigit = true) {other : Char}
    (different : other ≠ '-') (letter : other.isDigit = false) : c ≠ other := by
  rintro rfl
  rcases starts with rfl | digit
  · exact different rfl
  · simp [letter] at digit

theorem isBlank_of_starts_number {c : Char} (starts : c = '-' ∨ c.isDigit = true) :
    isBlank c = false := by
  simp only [isBlank, Bool.or_eq_false_iff, decide_eq_false_iff_not]
  refine ⟨⟨⟨?_, ?_⟩, ?_⟩, ?_⟩ <;> exact ne_of_starts_number starts (by decide) (by decide)

theorem Spells.opens {phrase : Phrase} {text : List Char} (spells : Spells phrase text) :
    ∃ before c rest, text = before ++ c :: rest ∧ Blank before ∧ isBlank c = false ∧ c ≠ ']' ∧
      c ≠ '\x7d' := by
  induction spells with
  | null => exact ⟨[], _, _, rfl, nofun, by decide⟩
  | bool b => cases b <;> exact ⟨[], _, _, rfl, nofun, by decide⟩
  | int n =>
    obtain ⟨c, digits, same, starts⟩ := intChars_eq_cons n.toInt
    exact ⟨[], c, digits, same, nofun, isBlank_of_starts_number starts,
      ne_of_starts_number starts (by decide) (by decide),
      ne_of_starts_number starts (by decide) (by decide)⟩
  | string | emptyList | list | emptyObject | object => exact ⟨[], _, _, rfl, nofun, by decide⟩
  | @lastItem _ before _ after blank _ _ ih =>
    obtain ⟨inner, c, rest, rfl, inside, visible⟩ := ih
    exact ⟨before ++ inner, c, rest ++ (after ++ [']']), by simp, blank.append inside, visible⟩
  | @item _ _ before _ after more blank _ _ _ ih =>
    obtain ⟨inner, c, rest, rfl, inside, visible⟩ := ih
    exact ⟨before ++ inner, c, rest ++ (after ++ ',' :: more), by simp, blank.append inside, visible⟩
  | lastMember blank | member blank => exact ⟨_, '"', _, rfl, blank, by decide⟩

theorem Spells.skipBlanks_opens {phrase : Phrase} {text : List Char} (spells : Spells phrase text)
    (rest : List Char) :
    ∃ c tail, skipBlanks (text ++ rest) = c :: tail ∧ c ≠ ']' ∧ c ≠ '\x7d' := by
  obtain ⟨before, c, more, rfl, blank, visible, bracket, brace⟩ := spells.opens
  refine ⟨c, more ++ rest, ?_, bracket, brace⟩
  rw [List.append_assoc, List.cons_append, skipBlanks_append blank, skipBlanks_cons visible]

def Phrase.Reads : Phrase → List Char → Prop
  | value j, text =>
    ∀ rest depth, Ends rest → text.length ≤ depth →
      readValue? (depth + 1) (text ++ rest) = some (j, rest)
  | items js, text =>
    ∀ rest depth, text.length ≤ depth → readItems? (depth + 1) (text ++ rest) = some (js, rest)
  | members ms, text =>
    ∀ rest depth, text.length ≤ depth → readMembers? (depth + 1) (text ++ rest) = some (ms, rest)

theorem readValue?_number {text : List Char} {c : Char} (starts : c = '-' ∨ c.isDigit = true)
    (depth : Nat) : readValue? (depth + 1) (c :: text) = readNumber? (c :: text) := by
  rw [readValue?, skipBlanks_cons (isBlank_of_starts_number starts)]
  split
  case h_7 => rfl
  all_goals
    next same =>
      cases same
      exact absurd rfl (ne_of_starts_number starts (by decide) (by decide))

theorem readValue?_list {text rest : List Char} {items : List Json} {depth : Nat}
    (spells : Spells (.items items) text)
    (read : readItems? depth (text ++ rest) = some (items, rest)) :
    readValue? (depth + 1) ('[' :: text ++ rest) = some (.list items, rest) := by
  obtain ⟨c, tail, opens, bracket, -⟩ := spells.skipBlanks_opens rest
  simp only [List.cons_append, readValue?, skipBlanks_cons (c := '[') (by decide), opens]
  split
  next same =>
    cases same
    exact absurd rfl bracket
  next => rw [read, Option.map_some]

theorem readValue?_object {text rest : List Char} {members : List (String × Json)} {depth : Nat}
    (spells : Spells (.members members) text)
    (read : readMembers? depth (text ++ rest) = some (members, rest)) :
    readValue? (depth + 1) ('\x7b' :: text ++ rest) = some (.object members, rest) := by
  obtain ⟨c, tail, opens, -, brace⟩ := spells.skipBlanks_opens rest
  simp only [List.cons_append, readValue?, skipBlanks_cons (c := '\x7b') (by decide), opens]
  split
  next same =>
    cases same
    exact absurd rfl brace
  next => rw [read, Option.map_some]

theorem Blank.ends_token {after : List Char} (blank : Blank after) {c : Char}
    (token : c = ',' ∨ c = ']' ∨ c = '\x7d') (rest : List Char) : Ends (after ++ c :: rest) := by
  refine blank.ends ?_
  rcases token with rfl | rfl | rfl <;> exact .cons (by decide) (by decide) (by decide) (by decide) rest

theorem Spells.reads {phrase : Phrase} {text : List Char} (spells : Spells phrase text) :
    phrase.Reads text := by
  -- What is inside brackets is shorter by a character at least, so there is depth left for it.
  have deeper {text : List Char} {depth : Nat} (enough : text.length < depth) :
      ∃ less, depth = less + 1 ∧ text.length ≤ less :=
    ⟨depth - 1, by omega, by omega⟩
  induction spells with
  | null | emptyList | emptyObject => exact fun _ _ _ _ => rfl
  | bool b => cases b <;> exact fun _ _ _ _ => rfl
  | int n =>
    intro rest depth ends _
    obtain ⟨c, digits, same, starts⟩ := intChars_eq_cons n.toInt
    rw [← readNumber?_intChars n ends, same]
    exact readValue?_number starts depth
  | string s =>
    intro rest depth _ _
    obtain ⟨inside, same, read⟩ := readText?_textChars s
    simp only [same, List.cons_append, readValue?, skipBlanks_cons (c := '"') (by decide), read,
      Option.map_some]
  | list spells ih =>
    intro rest depth _ enough
    obtain ⟨depth, rfl, bound⟩ := deeper enough
    exact readValue?_list spells (ih rest depth bound)
  | object spells ih =>
    intro rest depth _ enough
    obtain ⟨depth, rfl, bound⟩ := deeper enough
    exact readValue?_object spells (ih rest depth bound)
  | @lastItem _ _ text after blank _ blankAfter ih =>
    intro rest depth enough
    simp only [List.length_append, List.length_cons] at enough
    obtain ⟨depth, rfl, bound⟩ := deeper (show text.length < depth by omega)
    have read := ih (after ++ ']' :: rest) depth (blankAfter.ends_token (by simp) rest) bound
    simp only [List.append_assoc, List.cons_append, List.nil_append, readItems?,
      readValue?_blank blank, read, Option.bind_eq_bind, Option.bind_some,
      skipBlanks_append blankAfter, skipBlanks_cons (c := ']') (by decide)]
  | @item _ _ _ text after more blank _ blankAfter _ ih later =>
    intro rest depth enough
    simp only [List.length_append, List.length_cons] at enough
    obtain ⟨depth, rfl, bound⟩ := deeper (show text.length < depth by omega)
    have read := ih (after ++ ',' :: (more ++ rest)) depth (blankAfter.ends_token (by simp) _) bound
    have readMore := later rest depth (by omega)
    rw [readItems?]
    simp only [List.append_assoc, List.cons_append, readValue?_blank blank, read, readMore,
      Option.bind_eq_bind, Option.bind_some, skipBlanks_append blankAfter,
      skipBlanks_cons (c := ',') (by decide)]
  | @lastMember name _ _ _ text after blank gap _ blankAfter ih =>
    intro rest depth enough
    simp only [List.length_append, List.length_cons] at enough
    obtain ⟨depth, rfl, bound⟩ := deeper (show text.length < depth by omega)
    have read := ih (after ++ '\x7d' :: rest) depth (blankAfter.ends_token (by simp) rest) bound
    obtain ⟨inside, same, named⟩ := readText?_textChars name
    simp only [same, List.append_assoc, List.cons_append, List.nil_append, readMembers?,
      skipBlanks_append blank, skipBlanks_cons (c := '"') (by decide), named, Option.bind_eq_bind,
      Option.bind_some, skipBlanks_cons (c := ':') (by decide), readValue?_blank gap, read,
      skipBlanks_append blankAfter, skipBlanks_cons (c := '\x7d') (by decide)]
  | @member name _ _ _ _ text after more blank gap _ blankAfter _ ih later =>
    intro rest depth enough
    simp only [List.length_append, List.length_cons] at enough
    obtain ⟨depth, rfl, bound⟩ := deeper (show text.length < depth by omega)
    have read := ih (after ++ ',' :: (more ++ rest)) depth (blankAfter.ends_token (by simp) _) bound
    have readMore := later rest depth (by omega)
    obtain ⟨inside, same, named⟩ := readText?_textChars name
    rw [readMembers?]
    simp only [same, List.append_assoc, List.cons_append, skipBlanks_append blank,
      skipBlanks_cons (c := '"') (by decide), named, Option.bind_eq_bind, Option.bind_some,
      skipBlanks_cons (c := ':') (by decide), readValue?_blank gap, read, readMore,
      skipBlanks_append blankAfter, skipBlanks_cons (c := ',') (by decide)]

theorem read?_of_spells {j : Json} {text after : List Char} (spells : Spells (.value j) text)
    (blank : Blank after) : read? (String.ofList (text ++ after)) = some j := by
  have read := spells.reads after (text ++ after).length
  have ends : Ends (after ++ []) := blank.ends nofun
  rw [List.append_nil] at ends
  have nothing : skipBlanks after = [] := List.dropWhile_eq_nil_iff.2 blank
  have enough : text.length ≤ (text ++ after).length := by simp
  simp only [read?, String.toList_ofList, read ends enough, nothing, if_true]

inductive Whole : Json → Prop where
  | null : Whole .null
  | bool (b : Bool) : Whole (.bool b)
  | int (n : Int64) : Whole (.int n)
  | string (s : String) : Whole (.string s)
  | list {items : List Json} : (∀ item ∈ items, Whole item) → Whole (.list items)
  | object {members : List (String × Json)} :
      (∀ member ∈ members, Whole member.2) → Whole (.object members)

theorem spells_items {items : List Json} {before after : List Char} {print : Json → List Char}
    (nonempty : items ≠ []) (blank : Blank before) (blankAfter : Blank after)
    (spells : ∀ item ∈ items, Spells (.value item) (print item)) :
    Spells (.items items)
      ([','].intercalate (items.map fun item => before ++ print item) ++ (after ++ [']'])) := by
  induction items with
  | nil => exact absurd rfl nonempty
  | cons item items ih =>
    obtain ⟨first, spells⟩ := List.forall_mem_cons.1 spells
    cases items with
    | nil => simpa using Spells.lastItem blank first blankAfter
    | cons next items =>
      have more := Spells.item blank first .nil (ih (by simp) spells)
      simpa [List.intercalate_cons_cons] using more

theorem spells_members {members : List (String × Json)} {before gap after : List Char}
    {print : Json → List Char} (nonempty : members ≠ []) (blank : Blank before)
    (blankGap : Blank gap) (blankAfter : Blank after)
    (spells : ∀ member ∈ members, Spells (.value member.2) (print member.2)) :
    Spells (.members members)
      ([','].intercalate (members.map fun member =>
        before ++ (textChars member.1 ++ ':' :: (gap ++ print member.2))) ++ (after ++ ['\x7d'])) := by
  induction members with
  | nil => exact absurd rfl nonempty
  | cons member members ih =>
    obtain ⟨name, value⟩ := member
    obtain ⟨first, spells⟩ := List.forall_mem_cons.1 spells
    cases members with
    | nil => simpa using Spells.lastMember blank blankGap first blankAfter
    | cons next members =>
      have more : Spells (.members ((name, value) :: next :: members)) _ :=
        .member blank blankGap first .nil (ih (by simp) spells)
      simpa [List.intercalate_cons_cons] using more

theorem compactItems_eq (items : List Json) : compactItems items = items.map compactChars := by
  induction items with
  | nil => rfl
  | cons item items ih => rw [compactItems, ih, List.map_cons]

theorem compactMembers_eq (members : List (String × Json)) :
    compactMembers members =
      members.map fun (name, value) => textChars name ++ ':' :: compactChars value := by
  induction members with
  | nil => rfl
  | cons member members ih => rw [compactMembers, ih, List.map_cons]

theorem Whole.spells_compact {j : Json} (whole : j.Whole) : Spells (.value j) j.compactChars := by
  induction whole with
  | null => exact .null
  | bool b => exact .bool b
  | int n => exact .int n
  | string s => exact .string s
  | @list items _ ih =>
    rcases eq_or_ne items [] with rfl | nonempty
    · exact .emptyList
    · rw [compactChars, compactItems_eq, commaSeparated_eq]
      exact .list (spells_items nonempty .nil .nil ih)
  | @object members _ ih =>
    rcases eq_or_ne members [] with rfl | nonempty
    · exact .emptyObject
    · have spelled := Spells.object (spells_members nonempty .nil .nil .nil ih)
      rwa [compactChars, compactMembers_eq, commaSeparated_eq]

theorem blank_lineIndent (depth : Nat) : Blank (lineIndent depth) := by
  refine List.forall_mem_cons.2 ⟨by decide, fun c member => ?_⟩
  rw [List.eq_of_mem_replicate member]
  decide

theorem Whole.spells_pretty {j : Json} (whole : j.Whole) (depth : Nat) :
    Spells (.value j) (j.prettyChars depth) := by
  induction whole generalizing depth with
  | null => exact .null
  | bool b => exact .bool b
  | int n => exact .int n
  | string s => exact .string s
  | @list items _ ih =>
    rcases eq_or_ne items [] with rfl | nonempty
    · exact .emptyList
    · have spelled := Spells.list (spells_items nonempty (blank_lineIndent (depth + 1))
        (blank_lineIndent depth) fun item listed => ih item listed (depth + 1))
      rwa [prettyChars, bracketLines_of_ne_nil _ _ _ (by simpa [prettyItems_eq] using nonempty),
        prettyItems_eq, List.map_map, List.append_assoc]
  | @object members _ ih =>
    rcases eq_or_ne members [] with rfl | nonempty
    · exact .emptyObject
    · have spelled := Spells.object (spells_members nonempty (blank_lineIndent (depth + 1))
        (blank_singleton ' ' rfl) (blank_lineIndent depth)
        fun member listed => ih member listed (depth + 1))
      rwa [prettyChars, bracketLines_of_ne_nil _ _ _ (by simpa [prettyMembers_eq] using nonempty),
        prettyMembers_eq, List.map_map, List.append_assoc]

theorem read?_compact {j : Json} (whole : j.Whole) : read? j.compact = some j := by
  have read := read?_of_spells whole.spells_compact .nil
  rwa [List.append_nil] at read

theorem read?_pretty {j : Json} (whole : j.Whole) : read? (j.pretty ++ "\n") = some j := by
  have read := read?_of_spells (whole.spells_pretty 0) (blank_singleton '\n' rfl)
  rwa [String.ofList_append] at read

end ParamGrid.Json
