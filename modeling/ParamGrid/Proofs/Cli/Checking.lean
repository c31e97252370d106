import ParamGrid.Proofs.File.Blocks

set_option autoImplicit false

namespace ParamGrid

theorem FileTree.readText_toUTF8 (source : String) :
    (FileTree.file source.toUTF8).readText = .ok source := by
  simp [readText, String.fromUTF8?, String.fromUTF8, source.isValidUTF8]

namespace File

variable {source : String} {file : File}

theorem blockNames_eq_nil_iff : blockNames file = [] ↔ file.top = none ∧ file.tests.entries = [] := by
  unfold blockNames Table.names
  cases file.top <;> simp

theorem loadEngine_firstTest {σ : Type} {name : String} {records : Block}
    {rest : List (String × Block)} (decoded : read? source = .ok file) (top : file.top = none)
    (entries : file.tests.entries = (name, records) :: rest) :
    (loadEngine source none : Log.Logged (Engine σ)).result =
      (loadEngine source (some name)).result := by
  have found : file.tests.get? name = some records := (least_of_entries entries).1
  have first : file.choose none = .ok (.firstTest name, records) := by simp [choose, top, entries]
  have named : file.choose (some name) = .ok (.test name, records) := by simp [choose, found]
  rw [loadEngine_result, loadEngine_result, loadDimensions_of_decoded decoded,
    loadDimensions_of_decoded decoded, first, named]

theorem loadEngine_noBlocks {σ : Type} (decoded : read? source = .ok file)
    (empty : blockNames file = []) :
    (loadEngine source none : Log.Logged (Engine σ)).result = .error (.load .noBlocks) := by
  obtain ⟨top, entries⟩ := blockNames_eq_nil_iff.1 empty
  have refused : file.choose none = .error .noBlocks := by simp [choose, top, entries]
  rw [loadEngine_result, loadDimensions_of_decoded decoded, refused]
  rfl

end File

namespace Cli

open File (read? blockNames blockNamesOf loadEngine)

theorem decoded_of_checkFile {f : Found} (accepted : (checkFile f).result = .ok ()) :
    ∃ source file, f.file.readText = .ok source ∧ read? source = .ok file := by
  unfold checkFile at accepted
  split at accepted
  · cases accepted
  next source readable =>
    rw [checkSource, Log.Logged.result_bind, Log.Logged.result_ofResult, blockNamesOf] at accepted
    cases decoded : read? source with
    | error fault =>
      rw [decoded] at accepted
      cases accepted
    | ok file => exact ⟨source, file, readable, decoded⟩

theorem checked_files_load {f : Found} (accepted : (checkFile f).result = .ok ()) :
    ∃ source blocks, f.file.readText = .ok source ∧ blockNamesOf source = .ok blocks ∧
      (∀ test, some test ∈ blocks →
        ∃ e : Engine Unit, (loadEngine source (some test)).result = .ok e) ∧
      (blocks ≠ [] → ∃ e : Engine Unit, (loadEngine source none).result = .ok e) := by
  obtain ⟨source, file, readable, decoded⟩ := decoded_of_checkFile accepted
  have listed : blockNamesOf source = .ok (blockNames file) := by
    rw [blockNamesOf, decoded]
    rfl
  have loads := (File.checkFile_ok_iff readable decoded).1 accepted
  refine ⟨source, blockNames file, readable, listed, fun test => loads (some test), fun nonempty => ?_⟩
  cases top : file.top with
  | some records => exact loads none (File.mem_blockNames.2 ⟨records, top⟩)
  | none =>
    cases entries : file.tests.entries with
    | nil => exact absurd (File.blockNames_eq_nil_iff.2 ⟨top, entries⟩) nonempty
    | cons entry rest =>
      obtain ⟨name, records⟩ := entry
      have member : some name ∈ blockNames file :=
        File.mem_blockNames.2 ⟨records, (File.least_of_entries entries).1⟩
      rw [File.loadEngine_firstTest decoded top entries]
      exact loads (some name) member

def testOnly : String :=
  "tests: \x7bB: \x7bcombinations: [\x7bname: N, values: [x]\x7d]\x7d\x7d"

theorem test_loads_without_name :
    (checkFile ⟨"letters.yaml", .file testOnly.toUTF8⟩).result = .ok () ∧
      blockNamesOf testOnly = .ok [some "B"] ∧
      (∃ e : Engine Unit, (loadEngine testOnly (some "B")).result = .ok e) ∧
      ∃ e : Engine Unit, (loadEngine testOnly none).result = .ok e := by
  have accepted : (checkFile ⟨"letters.yaml", .file testOnly.toUTF8⟩).result = .ok () := by cbv
  have listed : blockNamesOf testOnly = .ok [some "B"] := by cbv
  obtain ⟨source, blocks, readable, named, tests, unnamed⟩ := checked_files_load accepted
  rw [FileTree.readText_toUTF8] at readable
  obtain rfl : testOnly = source := Except.ok.inj readable
  obtain rfl : [some "B"] = blocks := Except.ok.inj (listed.symm.trans named)
  exact ⟨accepted, listed, tests "B" (by simp), unnamed (by simp)⟩

theorem blockless_file_passes :
    let source := "tests: \x7b\x7d\n"
    let f : Found := ⟨"empty.yaml", .file source.toUTF8⟩
    (checkFile f).result = .ok () ∧ f.file.readText = .ok source ∧
      (loadEngine source none : Log.Logged (Engine Unit)).result = .error (.load .noBlocks) := by
  intro source f
  have listed : (read? source).map blockNames = .ok [] := by cbv
  have readable : f.file.readText = .ok source := FileTree.readText_toUTF8 source
  cases decoded : read? source with
  | error fault =>
    rw [decoded] at listed
    cases listed
  | ok file =>
    rw [decoded] at listed
    have empty : blockNames file = [] := Except.ok.inj listed
    have passes := (File.checkFile_ok_iff readable decoded).2 (by simp [empty])
    exact ⟨passes, readable, File.loadEngine_noBlocks decoded empty⟩

end Cli

end ParamGrid
