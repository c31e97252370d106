import ParamGrid.Json.Printer

set_option autoImplicit false

namespace ParamGrid.Json

def Scalar : Json → Prop
  | list _ | object _ => False
  | null | bool _ | int _ | real _ | string _ => True

def memberText (member : String × Json) : String :=
  "\n    " ++ (string member.1).compact ++ ": " ++ member.2.compact

def objectText (members : List (String × Json)) : String :=
  "\n  \x7b" ++ ",".intercalate (members.map memberText) ++ "\n  \x7d"

theorem prettyChars_scalar {j : Json} (scalar : j.Scalar) (depth : Nat) :
    j.prettyChars depth = j.compactChars := by
  cases j with
  | list items => exact scalar.elim
  | object members => exact scalar.elim
  | null | bool | int | real | string => rw [prettyChars, compactChars]

theorem commaSeparated_eq (parts : List (List Char)) :
    commaSeparated parts = [','].intercalate parts := by
  induction parts using commaSeparated.induct with
  | case1 => rfl
  | case2 part => simp [commaSeparated]
  | case3 part rest more ih =>
    obtain ⟨next, rest, rfl⟩ := List.exists_cons_of_ne_nil more
    rw [commaSeparated, ih] <;> simp

theorem prettyItems_eq (depth : Nat) (items : List Json) :
    prettyItems depth items = items.map (prettyChars depth) := by
  induction items with
  | nil => rfl
  | cons item items ih => rw [prettyItems, ih, List.map_cons]

theorem prettyMembers_eq (depth : Nat) (members : List (String × Json)) :
    prettyMembers depth members =
      members.map fun (name, value) => textChars name ++ ':' :: ' ' :: prettyChars depth value := by
  induction members with
  | nil => rfl
  | cons member members ih => rw [prettyMembers, ih, List.map_cons]

theorem bracketLines_of_ne_nil (opening closing : Char) (depth : Nat) {parts : List (List Char)}
    (nonempty : parts ≠ []) :
    bracketLines opening closing depth parts =
      opening :: ([','].intercalate (parts.map (lineIndent (depth + 1) ++ ·)) ++
        lineIndent depth ++ [closing]) := by
  obtain ⟨part, parts, rfl⟩ := List.exists_cons_of_ne_nil nonempty
  rw [bracketLines, commaSeparated_eq]
  simp

theorem toList_memberText {member : String × Json} (scalar : member.2.Scalar) :
    (memberText member).toList =
      lineIndent 2 ++ (textChars member.1 ++ ':' :: ' ' :: prettyChars 2 member.2) := by
  rw [prettyChars_scalar scalar]
  simp [memberText, compact, compactChars, lineIndent, List.replicate]

theorem toList_objectText {members : List (String × Json)} (nonempty : members ≠ [])
    (scalars : ∀ member ∈ members, member.2.Scalar) :
    (objectText members).toList = lineIndent 1 ++ prettyChars 1 (object members) := by
  have lines : members.map (String.toList ∘ memberText) =
      (prettyMembers 2 members).map (lineIndent 2 ++ ·) := by
    rw [prettyMembers_eq, List.map_map]
    exact List.map_congr_left fun member listed => toList_memberText (scalars member listed)
  rw [prettyChars, bracketLines_of_ne_nil _ _ _ (by simpa [prettyMembers_eq] using nonempty), ← lines]
  simp [objectText, lineIndent, List.replicate]

theorem pretty_objects {objects : List (List (String × Json))} (nonempty : objects ≠ [])
    (filled : ∀ members ∈ objects, members ≠ [])
    (scalars : ∀ members ∈ objects, ∀ member ∈ members, member.2.Scalar) :
    (list (objects.map object)).pretty = "[" ++ ",".intercalate (objects.map objectText) ++ "\n]" := by
  have lines : objects.map (String.toList ∘ objectText) =
      (prettyItems 1 (objects.map object)).map (lineIndent 1 ++ ·) := by
    rw [prettyItems_eq, List.map_map, List.map_map]
    exact List.map_congr_left fun members listed =>
      toList_objectText (filled members listed) (scalars members listed)
  rw [← String.toList_inj, pretty, String.toList_ofList, prettyChars,
    bracketLines_of_ne_nil _ _ _ (by simpa [prettyItems_eq] using nonempty), ← lines]
  simp [lineIndent]

end ParamGrid.Json
