import Mathlib
import ParamGrid.Cli.Check
import ParamGrid.Proofs.Text.ByteOrder

set_option autoImplicit false

namespace ParamGrid

namespace FileTree

inductive Below : FileTree → List String → ByteArray → Prop where
  | here (content : ByteArray) : Below (.file content) [] content
  | inside {entries : List (String × FileTree)} {name : String} {t : FileTree} {names : List String}
      {content : ByteArray} :
      (name, t) ∈ entries → Below t names content → Below (.directory entries) (name :: names) content

def Plain (name : String) : Prop :=
  name ≠ "" ∧ '/' ∉ name.toList

inductive Proper : FileTree → Prop where
  | file (content : ByteArray) : Proper (.file content)
  | directory {entries : List (String × FileTree)} :
      (entries.map Prod.fst).Nodup → (∀ e ∈ entries, Plain e.1) → (∀ e ∈ entries, Proper e.2) →
      Proper (.directory entries)

theorem Below.plain {t : FileTree} {names : List String} {content : ByteArray}
    (below : Below t names content) (proper : t.Proper) : ∀ name ∈ names, Plain name := by
  induction below with
  | here => simp
  | inside member _ ih =>
    obtain _ | ⟨-, plain, inner⟩ := proper
    exact List.forall_mem_cons.2 ⟨plain _ member, ih (inner _ member)⟩

mutual

theorem mem_files {names : List String} {content : ByteArray} (t : FileTree) :
    (names, content) ∈ t.files ↔ Below t names content := by
  cases t with
  | file other =>
    rw [files, List.mem_singleton]
    constructor
    · rintro ⟨⟩
      exact .here content
    · rintro ⟨⟩
      rfl
  | directory entries =>
    rw [files, mem_filesOfEntries entries]
    constructor
    · rintro ⟨name, t, rest, member, rfl, below⟩
      exact .inside member below
    · rintro (_ | ⟨member, below⟩)
      exact ⟨_, _, _, member, rfl, below⟩

theorem mem_filesOfEntries {names : List String} {content : ByteArray}
    (entries : List (String × FileTree)) :
    (names, content) ∈ filesOfEntries entries ↔
      ∃ name t rest, (name, t) ∈ entries ∧ names = name :: rest ∧ Below t rest content := by
  match entries with
  | [] => simp [filesOfEntries]
  | (first, t) :: entries =>
    rw [filesOfEntries, List.mem_append, mem_filesOfEntries entries, List.mem_map]
    constructor
    · rintro (⟨⟨rest, content'⟩, member, same⟩ | ⟨name, t', rest, member, rfl, below⟩)
      · cases same
        exact ⟨first, t, rest, List.mem_cons_self, rfl, (mem_files t).1 member⟩
      · exact ⟨name, t', rest, List.mem_cons_of_mem _ member, rfl, below⟩
    · rintro ⟨name, t', rest, member, rfl, below⟩
      rcases List.mem_cons.1 member with same | member
      · cases same
        exact .inl ⟨(rest, content), (mem_files t).2 below, rfl⟩
      · exact .inr ⟨name, t', rest, member, rfl, below⟩

end

mutual

theorem nodup_files {t : FileTree} (proper : t.Proper) : (t.files.map Prod.fst).Nodup := by
  cases proper with
  | file content => simp [files]
  | directory distinct _ inner => exact nodup_filesOfEntries distinct inner

theorem nodup_filesOfEntries {entries : List (String × FileTree)}
    (distinct : (entries.map Prod.fst).Nodup) (inner : ∀ e ∈ entries, e.2.Proper) :
    ((filesOfEntries entries).map Prod.fst).Nodup := by
  match entries with
  | [] => simp [filesOfEntries]
  | (name, t) :: entries =>
    rw [List.map_cons, List.nodup_cons] at distinct
    rw [List.forall_mem_cons] at inner
    have heads : ((files t).map fun (path, content) => (name :: path, content)).map Prod.fst =
        (t.files.map Prod.fst).map (name :: ·) := by
      simp [List.map_map, Function.comp_def]
    rw [filesOfEntries, List.map_append, heads, List.nodup_append]
    refine ⟨(nodup_files inner.1).map List.cons_injective, nodup_filesOfEntries distinct.2 inner.2, ?_⟩
    -- What is in a later entry starts with another name.
    rintro names first other later rfl
    obtain ⟨path, -, rfl⟩ := List.mem_map.1 first
    obtain ⟨⟨_, content⟩, member, rfl⟩ := List.mem_map.1 later
    obtain ⟨_, t', _, entry, same, -⟩ := (mem_filesOfEntries entries).1 member
    cases same
    exact distinct.1 (List.mem_map.2 ⟨_, entry, rfl⟩)

end

def Precedes (names others : List String) : Prop :=
  names.map Text.bytes < others.map Text.bytes

theorem precedes_of_lt {names others : List String} (before : names < others) :
    Precedes names others := by
  unfold Precedes
  induction names generalizing others with
  | nil =>
    cases others with
    | nil => exact absurd before (lt_irrefl _)
    | cons => exact List.nil_lt_cons _ _
  | cons name names ih =>
    cases others with
    | nil => exact absurd before (List.not_lt_nil _)
    | cons other others =>
      rw [List.map_cons, List.map_cons, List.cons_lt_cons_iff]
      rcases List.cons_lt_cons_iff.1 before with lower | ⟨rfl, later⟩
      · exact .inl (Text.bytes_lt lower)
      · exact .inr ⟨rfl, ih later⟩

theorem pathLe_iff {names others : List String} : Cli.pathLe names others = true ↔ names ≤ others := by
  rw [← not_lt]
  induction names generalizing others with
  | nil => simp [Cli.pathLe, List.not_lt_nil]
  | cons name names ih =>
    cases others with
    | nil => simp [Cli.pathLe]
    | cons other others =>
      rw [Cli.pathLe, List.cons_lt_cons_iff]
      rcases lt_trichotomy name other with lower | rfl | lower
      · simp [lower, lower.ne', not_lt_of_gt lower]
      · simp [ih]
      · simp [lower, not_lt_of_gt lower]

def NamesYaml (name : String) : Prop :=
  ∃ stem, stem ≠ "" ∧ (name = stem ++ ".yaml" ∨ name = stem ++ ".yml")

theorem extension?_eq_some_iff {name ext : String} (undotted : '.' ∉ ext.toList) :
    extension? name = some ext ↔ ∃ stem, stem ≠ "" ∧ name = stem ++ ("." ++ ext) := by
  have dot : ("." : String).toList = ['.'] := rfl
  unfold extension?
  dsimp only
  constructor
  · intro found
    split at found
    next c rest behind =>
      have whole : name.toList = (name.toList.reverse.takeWhile (· ≠ '.') ++ '.' :: c :: rest).reverse := by
        rw [← behind, List.takeWhile_append_dropWhile, List.reverse_reverse]
      cases found
      refine ⟨String.ofList (c :: rest).reverse, by simp, String.toList_inj.1 (whole.trans ?_)⟩
      simp [dot]
    · cases found
  · rintro ⟨stem, nonempty, rfl⟩
    have reversed : (stem ++ ("." ++ ext)).toList.reverse =
        ext.toList.reverse ++ '.' :: stem.toList.reverse := by simp [dot]
    have plain : ∀ c ∈ ext.toList.reverse, (decide (c ≠ '.')) = true := by
      intro c member
      rw [List.mem_reverse] at member
      exact decide_eq_true fun same => undotted (same ▸ member)
    rw [reversed, List.dropWhile_append_of_pos plain, List.takeWhile_append_of_pos plain]
    have stem : stem.toList.reverse ≠ [] := by simpa using nonempty
    obtain ⟨c, rest, same⟩ := List.exists_cons_of_ne_nil stem
    simp [same]

theorem isCombinationFile_iff {names : List String} :
    Cli.isCombinationFile names = true ↔ ∃ name, names.getLast? = some name ∧ NamesYaml name := by
  unfold Cli.isCombinationFile NamesYaml
  cases names.getLast? with
  | none => simp
  | some name =>
    simp only [Bool.or_eq_true, decide_eq_true_eq, extension?_eq_some_iff (show '.' ∉ "yaml".toList by decide),
      extension?_eq_some_iff (show '.' ∉ "yml".toList by decide), Option.some.injEq, exists_eq_left',
      ← exists_or, ← and_or_left]
    rfl

theorem endsWith_slash_iff {path : String} :
    path.endsWith "/" = true ↔ path.toList.getLast? = some '/' := by
  have slash : ("/" : String).toList = ['/'] := rfl
  rw [String.endsWith_eq_endsWith_toSlice, String.Slice.endsWith_string_iff, slash,
    String.copy_toSlice, List.getLast?_eq_some_iff]
  exact exists_congr fun front => eq_comm

def stem (path : String) : List Char :=
  if path.endsWith "/" then path.toList.dropLast else path.toList

theorem toList_join (path name : String) : (join path name).toList = stem path ++ '/' :: name.toList := by
  unfold join stem
  split
  next ends =>
    have whole := List.dropLast_append_getLast? _ (endsWith_slash_iff.1 ends)
    rw [String.toList_append, ← whole]
    simp
  next =>
    have slash : ("/" : String).toList = ['/'] := rfl
    simp [slash]

theorem stem_join {path name : String} (plain : Plain name) :
    stem (join path name) = (join path name).toList := by
  refine if_neg fun ends => ?_
  rw [endsWith_slash_iff, toList_join] at ends
  have filled : name.toList ≠ [] := by simpa using plain.1
  have last : name.toList.getLast? = some '/' := by
    rwa [List.getLast?_append_cons, List.getLast?_cons_of_ne_nil filled] at ends
  exact plain.2 (List.mem_of_getLast? last)

def slashed (names : List String) : List Char :=
  names.flatMap fun name => '/' :: name.toList

theorem toList_foldl_join {path : String} {names : List String} (plain : ∀ name ∈ names, Plain name)
    (nonempty : names ≠ []) : (names.foldl join path).toList = stem path ++ slashed names := by
  induction names generalizing path with
  | nil => contradiction
  | cons name names ih =>
    rw [List.forall_mem_cons] at plain
    rw [List.foldl_cons, slashed, List.flatMap_cons]
    cases names with
    | nil => simp [toList_join]
    | cons other names =>
      rw [ih plain.2 (List.cons_ne_nil _ _), stem_join plain.1, toList_join, List.append_assoc]
      rfl

theorem takeWhile_slashed {name : String} (plain : Plain name) (names : List String) :
    (name.toList ++ slashed names).takeWhile (· ≠ '/') = name.toList := by
  have free : ∀ c ∈ name.toList, (decide (c ≠ '/')) = true :=
    fun c member => decide_eq_true fun same => plain.2 (same ▸ member)
  rw [List.takeWhile_append_of_pos free]
  cases names <;> simp [slashed]

theorem slashed_injective {names others : List String} (plain : ∀ name ∈ names, Plain name)
    (plain' : ∀ name ∈ others, Plain name) (same : slashed names = slashed others) :
    names = others := by
  induction names generalizing others with
  | nil =>
    cases others with
    | nil => rfl
    | cons => cases same
  | cons name names ih =>
    cases others with
    | nil => cases same
    | cons other others =>
      rw [List.forall_mem_cons] at plain plain'
      have tails : name.toList ++ slashed names = other.toList ++ slashed others :=
        (List.cons.inj same).2
      have heads : name.toList = other.toList := by
        rw [← takeWhile_slashed plain.1 names, tails, takeWhile_slashed plain'.1]
      rw [heads] at tails
      rw [String.toList_inj.1 heads, ih plain.2 plain'.2 (List.append_cancel_left tails)]

theorem path_injective {path : String} {names others : List String}
    (plain : ∀ name ∈ names, Plain name) (plain' : ∀ name ∈ others, Plain name)
    (nonempty : names ≠ []) (nonempty' : others ≠ [])
    (same : names.foldl join path = others.foldl join path) : names = others := by
  have lists := congrArg String.toList same
  rw [toList_foldl_join plain nonempty, toList_foldl_join plain' nonempty'] at lists
  exact slashed_injective plain plain' (List.append_cancel_left lists)

end FileTree

end ParamGrid
