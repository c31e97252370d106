import Mathlib
import ParamGrid.Cli.Check
import ParamGrid.Proofs.File.Loading
import ParamGrid.Proofs.Table
import ParamGrid.Proofs.Text.ByteOrder

set_option autoImplicit false

namespace ParamGrid

theorem LoadFault.help?_unknownTest (test : String) {declared : List String}
    (named : declared ≠ [""]) :
    (unknownTest test declared).help? =
      if declared = [] then none else some ("declared tests: " ++ ", ".intercalate declared) := by
  have shown : ", ".intercalate declared = "" ↔ declared = [] := by
    match declared with
    | [] => simp
    | [name] => simpa [String.intercalate_singleton] using named
    | _ :: _ :: _ => simp [String.intercalate_cons_cons]
  simp only [help?, shown]

theorem Error.message_unknownTest (test : String) (declared : List String) :
    (load (.unknownTest test declared)).message =
      "Load error: no combinations declared for test '" ++ test ++ "'" := by
  show "Load error: " ++ ("no combinations declared for test '" ++ test ++ "'") = _
  rw [← String.append_assoc, ← String.append_assoc]
  rfl

namespace File

variable {source : String} {file : File}

def declared? (file : File) : Option String → Option Block
  | none => file.top
  | some name => file.tests.get? name

def Precedes : Option String → Option String → Prop
  | none, some _ => True
  | some name, some other => Text.bytes name < Text.bytes other
  | _, none => False

theorem mem_blockNames {block : Option String} :
    block ∈ blockNames file ↔ ∃ records, file.declared? block = some records := by
  rw [blockNames, List.mem_append]
  cases block with
  | none => cases top : file.top <;> simp [declared?, top]
  | some name => cases file.top <;> simp [declared?, Table.mem_names]

theorem pairwise_blockNames (file : File) : (blockNames file).Pairwise Precedes := by
  have tests : (file.tests.names.map some).Pairwise Precedes :=
    List.pairwise_map.2 (file.tests.sorted_names.imp Text.bytes_lt)
  unfold blockNames
  cases file.top with
  | none => exact tests
  | some records =>
    refine List.pairwise_cons.2 ⟨fun block member => ?_, tests⟩
    obtain ⟨name, -, rfl⟩ := List.mem_map.1 member
    trivial

theorem tests_blockNames (file : File) : (blockNames file).filterMap id = file.tests.names := by
  unfold blockNames
  cases file.top <;> simp

theorem choose_of_declared {block : Option String} {records : Block}
    (found : file.declared? block = some records) :
    ∃ choice, file.choose block = .ok (choice, records) := by
  cases block with
  | none =>
    have top : file.top = some records := found
    exact ⟨.top, by simp [choose, top]⟩
  | some name =>
    have test : file.tests.get? name = some records := found
    exact ⟨.test name, by simp [choose, test]⟩

theorem choose_cases {test : Option String} {choice : Choice} {records : Block}
    (chosen : file.choose test = .ok (choice, records)) :
    file.declared? test = some records ∨
      test = none ∧ file.top = none ∧ ∃ name rest, file.tests.entries = (name, records) :: rest := by
  cases test with
  | some name =>
    simp only [choose] at chosen
    split at chosen
    next block found =>
      cases chosen
      exact .inl found
    · cases chosen
  | none =>
    simp only [choose] at chosen
    split at chosen
    next block _ top =>
      cases chosen
      exact .inl top
    next name block rest top entries =>
      cases chosen
      exact .inr ⟨rfl, top, name, rest, entries⟩
    · cases chosen

theorem loadDimensions_unlisted {name : String} (decoded : read? source = .ok file)
    (missing : some name ∉ blockNames file) :
    (loadDimensions source (some name)).result =
      .error (.load (.unknownTest name file.tests.names)) := by
  rw [mem_blockNames, ← Option.isSome_iff_exists] at missing
  have undeclared : file.tests.get? name = none := by simpa [declared?] using missing
  rw [loadDimensions_of_decoded decoded]
  simp [choose, undeclared]

theorem least_of_entries {name : String} {records : Block} {rest : List (String × Block)}
    (entries : file.tests.entries = (name, records) :: rest) :
    file.tests.get? name = some records ∧
      ∀ other ∈ file.tests.names, other = name ∨ Text.bytes name < Text.bytes other := by
  have sorted := file.tests.sorted
  rw [entries] at sorted
  have later := (List.pairwise_cons.1 sorted).1
  refine ⟨by simp [Table.get?, entries], fun other member => ?_⟩
  rw [Table.names, entries, List.map_cons, List.mem_cons] at member
  refine member.imp_right fun member => ?_
  obtain ⟨entry, listed, rfl⟩ := List.mem_map.1 member
  exact Text.bytes_lt (later entry listed)

theorem checkBlocks_ok_iff (path : String) {blocks : List (Option String)} :
    (Cli.checkBlocks path source blocks).result = .ok () ↔
      ∀ block ∈ blocks, ∃ e : Engine Unit, (loadEngine source block).result = .ok e := by
  induction blocks with
  | nil => simp [Cli.checkBlocks]
  | cons block blocks ih =>
    rw [Cli.checkBlocks, Log.Logged.result_bind, Cli.checkBlock, Log.Logged.result_bind,
      Log.Logged.result_event, List.forall_mem_cons, ← ih]
    show (Except.bind (Log.Logged.result (loadEngine source block >>= _)) _) = _ ↔ _
    rw [Log.Logged.result_bind]
    cases (loadEngine source block : Log.Logged (Engine Unit)).result <;> simp [Except.bind]

theorem checkFile_ok_iff {f : Cli.Found} (readable : f.file.readText = .ok source)
    (decoded : read? source = .ok file) :
    (Cli.checkFile f).result = .ok () ↔
      ∀ block ∈ blockNames file, ∃ e : Engine Unit, (loadEngine source block).result = .ok e := by
  rw [← checkBlocks_ok_iff f.path, Cli.checkFile, readable]
  show (Cli.checkSource f.path source).result = _ ↔ _
  rw [Cli.checkSource, Log.Logged.result_bind, Log.Logged.result_ofResult, blockNamesOf, decoded]
  rfl

structure BlocksAgree (source : String) (file : File) (blocks : List (Option String)) : Prop where
  listed : ∀ block, block ∈ blocks ↔ ∃ records, file.declared? block = some records
  ordered : blocks.Pairwise Precedes
  chosen : ∀ block ∈ blocks, ∃ choice records, file.declared? block = some records ∧
    file.choose block = .ok (choice, records) ∧
    (loadDimensions source block).result = orShapeError (dimensions records)
  answered : ∀ test choice records, file.choose test = .ok (choice, records) →
    ∃ block ∈ blocks, file.declared? block = some records ∧
      if test = none ∧ file.top = none then
        ∃ least, block = some least ∧
          ∀ name, some name ∈ blocks → name = least ∨ Text.bytes least < Text.bytes name
      else block = test
  refused : ∀ name, some name ∉ blocks → ∃ e,
    (loadDimensions source (some name)).result = .error e ∧ e.kind = .load ∧
    e.message = "Load error: no combinations declared for test '" ++ name ++ "'" ∧
    (blocks.filterMap id ≠ [""] → e.help? =
      if blocks.filterMap id = [] then none
      else some ("declared tests: " ++ ", ".intercalate (blocks.filterMap id)))
  checked : ∀ f : Cli.Found, f.file.readText = .ok source →
    ((Cli.checkFile f).result = .ok () ↔
      ∀ block ∈ blocks, ∃ e : Engine Unit, (loadEngine source block).result = .ok e)

/-- Every file that can be decoded lists the blocks it declares, and these are what can be chosen. -/
theorem listed_blocks_are_chosen (decoded : read? source = .ok file) :
    ∃ blocks, blockNamesOf source = .ok blocks ∧ BlocksAgree source file blocks := by
  refine ⟨blockNames file, by rw [blockNamesOf, decoded]; rfl, ?_⟩
  constructor
  case listed => exact fun block => mem_blockNames
  case ordered => exact pairwise_blockNames file
  case chosen =>
    intro block member
    obtain ⟨records, found⟩ := mem_blockNames.1 member
    obtain ⟨choice, chosen⟩ := choose_of_declared found
    exact ⟨choice, records, found, chosen, by rw [loadDimensions_of_decoded decoded, chosen]⟩
  case answered =>
    intro test choice records chosen
    rcases choose_cases chosen with found | ⟨rfl, top, name, rest, entries⟩
    · refine ⟨test, mem_blockNames.2 ⟨records, found⟩, found, ?_⟩
      have noFallback : ¬ (test = none ∧ file.top = none) := by
        rintro ⟨rfl, top⟩
        simp [declared?, top] at found
      rw [if_neg noFallback]
    · obtain ⟨found, least⟩ := least_of_entries entries
      refine ⟨some name, mem_blockNames.2 ⟨records, found⟩, found, ?_⟩
      rw [if_pos ⟨rfl, top⟩]
      exact ⟨name, rfl, fun other member => least other (Table.mem_names.2 (mem_blockNames.1 member))⟩
  case refused =>
    intro name missing
    rw [tests_blockNames]
    exact ⟨_, loadDimensions_unlisted decoded missing, rfl, Error.message_unknownTest name _,
      LoadFault.help?_unknownTest name⟩
  case checked => exact fun f readable => checkFile_ok_iff readable decoded

def threeBlocks : String :=
  "tests: \x7bB: \x7bcombinations: []\x7d, A: \x7bcombinations: []\x7d\x7d\ncombinations: []\n"

theorem three_blocks_are_chosen :
    ∃ file, read? threeBlocks = .ok file ∧ blockNames file = [none, some "A", some "B"] ∧
      ∃ blocks, blockNamesOf threeBlocks = .ok blocks ∧ BlocksAgree threeBlocks file blocks := by
  have listed : (read? threeBlocks).map blockNames = .ok [none, some "A", some "B"] := by cbv
  cases decoded : read? threeBlocks with
  | error fault =>
    rw [decoded] at listed
    cases listed
  | ok file =>
    rw [decoded] at listed
    exact ⟨file, rfl, Except.ok.inj listed, listed_blocks_are_chosen decoded⟩

theorem nameless_test_is_not_told :
    let source := "tests:\n  \"\":\n    combinations: []\n"
    ∃ file e, read? source = .ok file ∧ blockNames file = [some ""] ∧ some "X" ∉ blockNames file ∧
      (loadDimensions source (some "X")).result = .error e ∧
      e.help? ≠ some ("declared tests: " ++ ", ".intercalate ((blockNames file).filterMap id)) := by
  intro source
  have listed : (read? source).map blockNames = .ok [some ""] := by cbv
  cases decoded : read? source with
  | error fault =>
    rw [decoded] at listed
    cases listed
  | ok file =>
    rw [decoded] at listed
    have names : blockNames file = [some ""] := Except.ok.inj listed
    have tests : file.tests.names = [""] := by rw [← tests_blockNames, names]; rfl
    have missing : some "X" ∉ blockNames file := by simp [names]
    refine ⟨file, _, rfl, names, missing, loadDimensions_unlisted decoded missing, ?_⟩
    simp [tests, Error.help?, LoadFault.help?]

end File

end ParamGrid
