import ParamGrid.Yaml.Token
import ParamGrid.Yaml.Tree

set_option autoImplicit false

namespace ParamGrid.Yaml

abbrev Handles := List (String × Tag)

def standardHandles : Handles :=
  [("!", .ofText "!"), ("!!", .core "")]

def expandTag? (handles : Handles) (handle : String) (suffix : Tag) : Option Tag :=
  if handle = "" then some suffix
  else (handles.lookup handle).map (· ++ suffix)

def readProperties? (handles : Handles) : List Token → Option (Properties String × List Token)
  | .anchor name :: .tag handle suffix :: rest | .tag handle suffix :: .anchor name :: rest =>
    (expandTag? handles handle suffix).map fun tag => (⟨some name, some tag⟩, rest)
  | .anchor name :: rest => some (⟨some name, none⟩, rest)
  | .tag handle suffix :: rest =>
    (expandTag? handles handle suffix).map fun tag => (⟨none, some tag⟩, rest)
  | rest => some (.none, rest)

def isNext (ends : List Token) : List Token → Bool
  | t :: _ => ends.contains t
  | [] => true

inductive Place where
  | block
  | beside
  | flow
  deriving DecidableEq

mutual

-- Reads a node. Every call within a node has a token less before it, or is the first one for a
-- token; `fuel` is a bound on their number.
def readNode? (handles : Handles) : Nat → Place → List Token → Option (Tree String × List Token)
  | 0, _, _ => none
  | fuel + 1, place, tokens =>
    match tokens with
    | .reference name :: rest => some (.reference name, rest)
    | _ => do
      let (properties, content) ← readProperties? handles tokens
      match content, place with
      | .scalar text plain :: rest, _ => some (.scalar properties text plain, rest)
      | .sequenceStart :: rest, _ => do
        let (items, rest) ← readFlowItems? handles fuel true rest
        some (.sequence properties items, rest)
      | .mappingStart :: rest, _ => do
        let (pairs, rest) ← readFlowPairs? handles fuel true rest
        some (.mapping properties pairs, rest)
      | .blockSequence :: rest, .block | .blockSequence :: rest, .beside => do
        let (items, rest) ← readBlockItems? handles fuel rest
        some (.sequence properties items, rest)
      | .blockMapping :: rest, .block | .blockMapping :: rest, .beside => do
        let (pairs, rest) ← readBlockPairs? handles fuel rest
        some (.mapping properties pairs, rest)
      | .blockEntry :: _, .beside => do
        let (items, rest) ← readBesideItems? handles fuel content
        some (.sequence properties items, rest)
      | _, _ => readBlank? properties content

def readBlank? (properties : Properties String) (rest : List Token) :
    Option (Tree String × List Token) :=
  if properties.anchor.isSome || properties.tag.isSome then some (.blank properties, rest) else none

def readNodeBefore? (handles : Handles) :
    Nat → Place → List Token → List Token → Option (Tree String × List Token)
  | 0, _, _, _ => none
  | fuel + 1, place, ends, tokens =>
    if isNext ends tokens then some (.blank .none, tokens) else readNode? handles fuel place tokens

def readBlockItems? (handles : Handles) :
    Nat → List Token → Option (List (Tree String) × List Token)
  | 0, _ => none
  | fuel + 1, tokens =>
    match tokens with
    | .blockEnd :: rest => some ([], rest)
    | .blockEntry :: rest => do
      let (item, rest) ← readNodeBefore? handles fuel .block [.blockEntry, .blockEnd] rest
      let (items, rest) ← readBlockItems? handles fuel rest
      some (item :: items, rest)
    | _ => none

def readBesideItems? (handles : Handles) :
    Nat → List Token → Option (List (Tree String) × List Token)
  | 0, _ => none
  | fuel + 1, tokens =>
    match tokens with
    | .blockEntry :: rest => do
      let (item, rest) ←
        readNodeBefore? handles fuel .block [.blockEntry, .key, .value, .blockEnd] rest
      let (items, rest) ← readBesideItems? handles fuel rest
      some (item :: items, rest)
    | rest => some ([], rest)

def readBlockPairs? (handles : Handles) :
    Nat → List Token → Option (List (Tree String × Tree String) × List Token)
  | 0, _ => none
  | fuel + 1, tokens =>
    match tokens with
    | .blockEnd :: rest => some ([], rest)
    | .key :: rest => do
      let (key, rest) ← readNodeBefore? handles fuel .beside [.key, .value, .blockEnd] rest
      let (value, rest) ← readBlockValue? handles fuel rest
      let (pairs, rest) ← readBlockPairs? handles fuel rest
      some ((key, value) :: pairs, rest)
    | _ => none

def readBlockValue? (handles : Handles) : Nat → List Token → Option (Tree String × List Token)
  | 0, _ => none
  | fuel + 1, tokens =>
    match tokens with
    | .value :: rest => readNodeBefore? handles fuel .beside [.key, .value, .blockEnd] rest
    | rest => some (.blank .none, rest)

def readFlowItems? (handles : Handles) :
    Nat → Bool → List Token → Option (List (Tree String) × List Token)
  | 0, _, _ => none
  | fuel + 1, first, tokens =>
    match tokens with
    | .sequenceEnd :: rest => some ([], rest)
    | _ => do
      let rest ← if first then some tokens else match tokens with
        | .flowEntry :: rest => some rest
        | _ => none
      match rest with
      | .sequenceEnd :: rest => some ([], rest)
      | .key :: rest => do
        let (key, rest) ← readPairKey? handles fuel rest
        let (value, rest) ← readFlowValue? handles fuel [.flowEntry, .sequenceEnd] rest
        let (items, rest) ← readFlowItems? handles fuel false rest
        some (.pair key value :: items, rest)
      | rest => do
        let (item, rest) ← readNode? handles fuel .flow rest
        let (items, rest) ← readFlowItems? handles fuel false rest
        some (item :: items, rest)

def readPairKey? (handles : Handles) : Nat → List Token → Option (Tree String × List Token)
  | 0, _ => none
  | fuel + 1, tokens =>
    if isNext [.value, .flowEntry, .sequenceEnd] tokens then some (.blank .none, tokens.drop 1)
    else readNode? handles fuel .flow tokens

def readFlowValue? (handles : Handles) :
    Nat → List Token → List Token → Option (Tree String × List Token)
  | 0, _, _ => none
  | fuel + 1, ends, tokens =>
    match tokens with
    | .value :: rest => readNodeBefore? handles fuel .flow ends rest
    | rest => some (.blank .none, rest)

def readFlowPairs? (handles : Handles) :
    Nat → Bool → List Token → Option (List (Tree String × Tree String) × List Token)
  | 0, _, _ => none
  | fuel + 1, first, tokens =>
    match tokens with
    | .mappingEnd :: rest => some ([], rest)
    | _ => do
      let rest ← if first then some tokens else match tokens with
        | .flowEntry :: rest => some rest
        | _ => none
      match rest with
      | .mappingEnd :: rest => some ([], rest)
      | .key :: rest => do
        let (key, rest) ←
          readNodeBefore? handles fuel .flow [.value, .flowEntry, .mappingEnd] rest
        let (value, rest) ← readFlowValue? handles fuel [.flowEntry, .mappingEnd] rest
        let (pairs, rest) ← readFlowPairs? handles fuel false rest
        some ((key, value) :: pairs, rest)
      | rest => do
        let (key, rest) ← readNode? handles fuel .flow rest
        let (pairs, rest) ← readFlowPairs? handles fuel false rest
        some ((key, .blank .none) :: pairs, rest)

end

def readDirectives? (version : Bool) (handles : Handles) :
    List Token → Option ((Bool × Handles) × List Token)
  | .versionDirective major minor :: rest =>
    if version ∨ major ≠ 1 ∨ (minor ≠ 1 ∧ minor ≠ 2) then none
    else readDirectives? true handles rest
  | .tagDirective handle start :: rest =>
    if (handles.lookup handle).isSome then none
    else readDirectives? version ((handle, start) :: handles) rest
  | rest => some ((version, handles), rest)

def isDirective : Token → Bool
  | .versionDirective .. | .tagDirective .. => true
  | _ => false

def readDocument? (tokens : List Token) : Option (Tree String × List Token) := do
  let ((_, handles), rest) ← readDirectives? false [] tokens
  let all := handles ++ standardHandles
  -- A token leads to three calls at most: for itself, for what it holds, and for what follows.
  let fuel := 4 * tokens.length + 8
  match rest with
  | .documentStart :: rest =>
    if rest.head?.any isDirective then some (.blank .none, rest)
    else readNodeBefore? all fuel .block [.documentStart, .documentEnd, .streamEnd] rest
  | rest =>
    if tokens.head?.any isDirective then none else readNode? all fuel .block rest

def skipDocumentEnds : List Token → List Token
  | .documentEnd :: rest => skipDocumentEnds rest
  | rest => rest

def treeOfTokens? (tokens : List Token) : Option (Option (Tree String)) :=
  match tokens with
  | .streamEnd :: _ => some none
  | _ => do
    let (tree, rest) ← readDocument? tokens
    match skipDocumentEnds rest with
    | .streamEnd :: _ => some (some tree)
    | _ => none

end ParamGrid.Yaml
