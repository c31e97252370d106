import Mathlib
import ParamGrid.Cli.Run
import ParamGrid.Proofs.FileTree

set_option autoImplicit false

namespace ParamGrid.Cli

open FileTree (Below NamesYaml Precedes)

variable {path : String} {tree : FileTree}

inductive Finds (path : String) : FileTree → List Found → Prop where
  | file (content : ByteArray) : Finds path (.file content) [⟨path, .file content⟩]
  | directory {entries : List (String × FileTree)} {places : List (List String × ByteArray)} :
      places.Pairwise (fun a b => Precedes a.1 b.1) →
      (∀ names content, (names, content) ∈ places ↔
        Below (.directory entries) names content ∧ ∃ name, names.getLast? = some name ∧ NamesYaml name) →
      Finds path (.directory entries)
        (places.map fun (names, content) => ⟨names.foldl FileTree.join path, .file content⟩)

def places (tree : FileTree) : List (List String × ByteArray) :=
  (tree.files.filter fun f => isCombinationFile f.1).mergeSort fun a b => pathLe a.1 b.1

theorem foundAt_directory (path : String) (entries : List (String × FileTree)) :
    foundAt path (.directory entries) = (places (.directory entries)).map fun (names, content) =>
      ⟨names.foldl FileTree.join path, .file content⟩ :=
  rfl

theorem mem_places {names : List String} {content : ByteArray} :
    (names, content) ∈ places tree ↔
      Below tree names content ∧ ∃ name, names.getLast? = some name ∧ NamesYaml name := by
  rw [places, (List.mergeSort_perm _ _).mem_iff, List.mem_filter, FileTree.mem_files,
    FileTree.isCombinationFile_iff]

theorem nodup_places (proper : tree.Proper) : ((places tree).map Prod.fst).Nodup := by
  have once : ((tree.files.filter fun f => isCombinationFile f.1).map Prod.fst).Nodup :=
    (List.filter_sublist.map Prod.fst).nodup (FileTree.nodup_files proper)
  exact ((List.mergeSort_perm _ _).map Prod.fst).nodup_iff.2 once

theorem sorted_places (proper : tree.Proper) :
    (places tree).Pairwise fun a b => Precedes a.1 b.1 := by
  have ordered : (places tree).Pairwise fun a b => pathLe a.1 b.1 = true := by
    refine List.pairwise_mergeSort (fun a b c => ?_) (fun a b => ?_) _
    · simp only [FileTree.pathLe_iff]
      exact le_trans
    · simp only [Bool.or_eq_true, FileTree.pathLe_iff]
      exact le_total _ _
  refine (ordered.and (List.pairwise_map.1 (nodup_places proper))).imp fun ⟨before, different⟩ => ?_
  exact FileTree.precedes_of_lt (lt_of_le_of_ne (FileTree.pathLe_iff.1 before) different)

theorem foundAt_finds (path : String) (proper : tree.Proper) : Finds path tree (foundAt path tree) := by
  cases tree with
  | file content => exact .file content
  | directory entries => exact .directory (sorted_places proper) fun _ _ => mem_places

theorem nodup_foundAt (path : String) (proper : tree.Proper) :
    ((foundAt path tree).map Found.path).Nodup := by
  cases tree with
  | file content => simp [foundAt]
  | directory entries =>
    rw [foundAt_directory, List.map_map]
    have distinct := List.pairwise_map.1 (nodup_places proper)
    refine List.pairwise_map.2 (distinct.imp_of_mem ?_)
    rintro ⟨names, content⟩ ⟨others, content'⟩ first second different same
    obtain ⟨below, _, last, -⟩ := mem_places.1 first
    obtain ⟨below', _, last', -⟩ := mem_places.1 second
    have nonempty : names ≠ [] := by
      rintro rfl
      cases last
    have nonempty' : others ≠ [] := by
      rintro rfl
      cases last'
    exact different (FileTree.path_injective (below.plain proper) (below'.plain proper) nonempty
      nonempty' same)

def remarks (f : Found) : List Notice :=
  match (checkFile f).result with
  | .ok () => []
  | .error e => [.heading f.path, .report e]

def failing (found : List Found) : Nat :=
  found.countP fun f => !(checkFile f).result.isOk

def Notice.isLog : Notice → Bool
  | log _ => true
  | _ => false

/-- The outcome tells of every file that fails, with nothing but lines of the log in between, and at the
end how many there were, however the reports are laid out. -/
structure Concludes (found : List Found) (o : Outcome) : Prop where
  stdout : o.stdout = ""
  notices : ∃ logs : Found → List Log.Event, o.notices =
    (found.flatMap fun f => (logs f).map Notice.log ++ remarks f) ++
      [.summary found.length (failing found)]
  lines : ∀ render : Error → List String,
    (o.notices.filter fun n => !n.isLog).flatMap (Notice.linesWith render) =
      (found.flatMap fun f =>
        match (checkFile f).result with
        | .ok () => []
        | .error e => (f.path ++ ":").splitOn "\n" ++ render e) ++
        [toString found.length ++ " files checked, " ++ toString (failing found) ++ " failed"]
  exit : o.exit = if failing found = 0 then 0 else 1

theorem fileNotices_eq (f : Found) :
    fileNotices f.path (checkFile f) = (checkFile f).events.map Notice.log ++ remarks f := by
  unfold fileNotices remarks
  cases (checkFile f).result <;> rfl

theorem length_failures (found : List Found) :
    ((found.map fun f => (f.path, checkFile f)).filter fun (_, c) => isFailure c).length =
      failing found := by
  rw [← List.countP_eq_length_filter, List.countP_map]
  refine List.countP_congr fun f _ => ?_
  simp only [Function.comp_apply, isFailure]
  cases (checkFile f).result <;> simp [Except.isOk, Except.toBool]

theorem checkFiles_eq (found : List Found) :
    checkFiles found =
      { exit := if failing found = 0 then 0 else 1
        stdout := ""
        notices := (found.flatMap fun f => (checkFile f).events.map Notice.log ++ remarks f) ++
          [.summary found.length (failing found)] } := by
  unfold checkFiles
  dsimp only
  rw [length_failures, List.flatMap_map]
  simp only [fileNotices_eq]

theorem filter_remarks {shown : Notice → Bool} (always : ∀ n, n.isLog = false → shown n = true)
    (f : Found) : (remarks f).filter shown = remarks f := by
  refine List.filter_eq_self.2 fun n member => always n ?_
  unfold remarks at member
  split at member
  · cases member
  · rcases List.mem_pair.1 member with rfl | rfl <;> rfl

theorem isShown_of_not_isLog (directives : List Log.Directive) {n : Notice} (other : n.isLog = false) :
    n.isShown directives = true := by
  cases n with
  | log event => cases other
  | heading | report | summary | fault => rfl

theorem lines_eq (render : Error → List String) (found : List Found)
    (logs : Found → List Log.Event) :
    (((found.flatMap fun f => (logs f).map Notice.log ++ remarks f) ++
        [Notice.summary found.length (failing found)]).filter fun n => !n.isLog).flatMap
          (Notice.linesWith render) =
      (found.flatMap fun f =>
        match (checkFile f).result with
        | .ok () => []
        | .error e => (f.path ++ ":").splitOn "\n" ++ render e) ++
        [toString found.length ++ " files checked, " ++ toString (failing found) ++ " failed"] := by
  have remarksOnly : ∀ f, ((logs f).map Notice.log ++ remarks f).filter (fun n => !n.isLog) =
      remarks f := by
    intro f
    rw [List.filter_append, filter_remarks (by simp), List.filter_map]
    simp [Function.comp_def, Notice.isLog]
  rw [List.filter_append, List.filter_flatMap]
  simp only [remarksOnly]
  rw [List.flatMap_append, List.flatMap_assoc]
  congr 2
  funext f
  unfold remarks
  cases (checkFile f).result <;> simp [Notice.linesWith]

theorem concludes_checkFiles (found : List Found) (directives : List Log.Directive) :
    Concludes found { checkFiles found with
      notices := (checkFiles found).notices.filter (Notice.isShown directives) } := by
  have told : (checkFiles found).notices.filter (Notice.isShown directives) =
      (found.flatMap fun f =>
        ((checkFile f).events.filter (Log.Directive.allow directives)).map Notice.log ++ remarks f) ++
        [.summary found.length (failing found)] := by
    rw [checkFiles_eq, List.filter_append, List.filter_flatMap]
    simp only [List.filter_append, filter_remarks fun _ => isShown_of_not_isLog directives,
      List.filter_map]
    rfl
  refine ⟨by rw [checkFiles_eq], ⟨_, told⟩, fun render => ?_, by rw [checkFiles_eq]⟩
  rw [told]
  exact lines_eq render found _

/-- A check of a path that leads somewhere goes through every file there is to check, each once and in
order, whichever of them fail. A path that leads nowhere is an error, and there is no summary. -/
theorem check_covers_tree (look : Look) (path : String) {directives : Option String}
    {args : List String} {verbosity : Nat}
    (asked : Request.read? 0 args = some (.run verbosity (.check path))) :
    (∀ tree, look path = .ok tree → tree.Proper →
      Finds path tree (foundAt path tree) ∧ ((foundAt path tree).map Found.path).Nodup ∧
        ∃ outcome, run? look directives args = some outcome ∧
          Concludes (foundAt path tree) outcome) ∧
      ∀ cause, look path = .error cause →
        run? look directives args =
          some ⟨1, "", [.report (.load (.unlistable cause))]⟩ := by
  constructor
  · intro tree there proper
    refine ⟨foundAt_finds path proper, nodup_foundAt path proper, ?_⟩
    have outcome := concludes_checkFiles (foundAt path tree) (Log.Directive.choose directives verbosity)
    rw [run?, asked]
    refine ⟨_, rfl, ?_⟩
    simpa [perform, check, there] using outcome
  · intro cause missing
    rw [run?, asked]
    simp [perform, check, missing, Notice.isShown]

def shelf : FileTree :=
  .directory [("b.yml", .file "combinations: []".toUTF8),
    ("a", .directory [("x.yaml", .file "x".toUTF8), ("x.txt", .file "x".toUTF8)])]

def shelved : List Found :=
  [⟨"./a/x.yaml", .file "x".toUTF8⟩, ⟨"./b.yml", .file "combinations: []".toUTF8⟩]

theorem shelf_is_checked :
    (shelf.Proper ∧ Finds "." shelf shelved ∧
      ∃ outcome, run? shelf.find none ["check"] = some outcome ∧ Concludes shelved outcome ∧
        outcome.exit = 1) ∧
      run? shelf.find none ["check", "c"] = some ⟨1, "", [.report (.load (.unlistable .notFound))]⟩ := by
  have here : Request.read? 0 ["check"] = some (.run 0 (.check ".")) := by cbv
  have elsewhere : Request.read? 0 ["check", "c"] = some (.run 0 (.check "c")) := by cbv
  have proper : shelf.Proper := by
    refine .directory (by decide) (by simp [FileTree.Plain]) ?_
    simp only [List.forall_mem_cons, List.not_mem_nil, false_implies, implies_true, and_true]
    refine ⟨.file _, .directory (by decide) (by simp [FileTree.Plain]) ?_⟩
    simp only [List.forall_mem_cons, List.not_mem_nil, false_implies, implies_true, and_true]
    exact ⟨.file _, .file _⟩
  have found : foundAt "." shelf = shelved := by cbv
  have failed : failing shelved = 1 := by cbv
  constructor
  · obtain ⟨finds, -, outcome, ran, concludes⟩ :=
      (check_covers_tree shelf.find "." here).1 shelf (by cbv) proper
    rw [found] at finds concludes
    exact ⟨proper, finds, outcome, ran, concludes, by rw [concludes.exit, failed]; rfl⟩
  · exact (check_covers_tree shelf.find "c" elsewhere).2 .notFound (by cbv)

end ParamGrid.Cli
