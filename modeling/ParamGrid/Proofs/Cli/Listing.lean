import ParamGrid.Cli.Run
import ParamGrid.Proofs.Engine.Acceptance
import ParamGrid.Proofs.Engine.History
import ParamGrid.Proofs.File.Loading
import ParamGrid.Proofs.Json.Layout

set_option autoImplicit false

namespace ParamGrid

theorem Value.scalar_toJson (v : Value) : v.toJson.Scalar := by
  cases v <;> trivial

namespace Cli

variable {look : Look} {file : String} {test : Option String}

def entryLines (c : Combination) : String :=
  String.join (c.entries.map fun (name, value) => name ++ ": [" ++ value.display ++ "]\n")

def numberedText (cs : List Combination) : String :=
  String.join ((cs.zipIdx 1).map fun (c, number) =>
    "--- Combination " ++ toString number ++ " ---\n" ++ entryLines c)

def members (c : Combination) : List (String × Json) :=
  c.entries.map fun (name, value) => (name, value.toJson)

def arrayText (cs : List Combination) : String :=
  if cs.isEmpty then "[]\n"
  else "[" ++ ",".intercalate (cs.map fun c => Json.objectText (members c)) ++ "\n]\n"

theorem numberedBlocks_eq (first : Nat) (cs : List Combination) :
    numberedBlocks first cs =
      String.join ((cs.zipIdx first).map fun (c, number) =>
        "--- Combination " ++ toString number ++ " ---\n" ++ entryLines c) := by
  induction cs generalizing first with
  | nil => simp [numberedBlocks]
  | cons c cs ih =>
    rw [numberedBlocks, ih, List.zipIdx_cons, List.map_cons, String.join_cons]
    rfl

theorem listText_json {cs : List Combination} (filled : ∀ c ∈ cs, c.entries ≠ []) :
    listText .json cs = arrayText cs := by
  unfold listText arrayText
  cases cs with
  | nil => rfl
  | cons c cs =>
    have objects : (c :: cs).map Combination.toJson = ((c :: cs).map members).map Json.object := by
      rw [List.map_map]
      rfl
    have layout : (Json.list (((c :: cs).map members).map Json.object)).pretty =
        "[" ++ ",".intercalate (((c :: cs).map members).map Json.objectText) ++ "\n]" :=
      Json.pretty_objects (by simp) (by simpa [members] using filled)
        (by simp [members, Value.scalar_toJson])
    dsimp only
    rw [objects, layout, List.map_map, List.isEmpty_cons, if_neg (by simp), String.append_assoc]
    rfl

def Outcome.reports (o : Outcome) : List Error :=
  o.notices.filterMap fun
    | .report e => some e
    | _ => none

def Ends (look : Look) (command : Command) (exit : Nat) (stdout : String) (reports : List Error) :
    Prop :=
  ∀ directives args verbosity, Request.read? 0 args = some (.run verbosity command) →
    ∃ outcome, run? look directives args = some outcome ∧ outcome.exit = exit ∧
      outcome.stdout = stdout ∧ outcome.reports = reports

theorem reports_filter (o : Outcome) (directives : List Log.Directive) :
    Outcome.reports { o with notices := o.notices.filter (Notice.isShown directives) } =
      o.reports := by
  simp only [Outcome.reports, List.filterMap_filter]
  refine List.filterMap_congr fun notice _ => ?_
  -- Only lines of the log can be left out, and none of them is a report.
  cases notice with
  | log event =>
    dsimp only
    split <;> rfl
  | heading | report | summary | fault => rfl

theorem reports_log (events : List Log.Event) (exit : Nat) (stdout : String) (rest : List Notice) :
    Outcome.reports ⟨exit, stdout, events.map Notice.log ++ rest⟩ =
      Outcome.reports ⟨exit, stdout, rest⟩ := by
  simp [Outcome.reports, List.filterMap_append, List.filterMap_map]

theorem ends_of_perform (look : Look) (command : Command) :
    Ends look command (perform look command).exit (perform look command).stdout
      (perform look command).reports := by
  intro directives args verbosity asked
  rw [run?, asked]
  exact ⟨_, rfl, rfl, rfl, reports_filter _ _⟩

def Declares (look : Look) (file : String) (test : Option String) (dimensions : List Dimension) :
    Prop :=
  ∃ source content choice records, (look file).bind FileTree.readText = .ok source ∧
    File.read? source = .ok content ∧ content.choose test = .ok (choice, records) ∧
    File.dimensions records = .ok dimensions

theorem declares_iff {dimensions : List Dimension} :
    Declares look file test dimensions ↔
      ∃ source, (look file).bind FileTree.readText = .ok source ∧
        (File.loadDimensions source test).result = .ok dimensions := by
  simp only [Declares, File.loadDimensions_eq_ok_iff, exists_and_left]

theorem Declares.unique {dimensions others : List Dimension}
    (declares : Declares look file test dimensions) (also : Declares look file test others) :
    dimensions = others := by
  obtain ⟨source, read, decoded⟩ := declares_iff.1 declares
  obtain ⟨same, readAgain, decodedAgain⟩ := declares_iff.1 also
  obtain rfl := Except.ok.inj (read.symm.trans readAgain)
  exact Except.ok.inj (decoded.symm.trans decodedAgain)

theorem loadFile_eq_ok_iff {e : Engine Unit} :
    (loadFile look file test).result = .ok e ↔
      ∃ dimensions, Declares look file test dimensions ∧ Engine.new dimensions = .ok e := by
  simp only [declares_iff]
  unfold loadFile
  cases (look file).bind FileTree.readText with
  | error cause => simp
  | ok source =>
    show (Log.Logged.result (_ >>= fun _ => File.loadEngine source test)) = _ ↔ _
    rw [Log.Logged.result_bind, Log.Logged.result_event]
    show (File.loadEngine source test).result = _ ↔ _
    simp [File.loadEngine_eq_ok_iff]

section

variable {print : List Combination → String} {command : Command}

theorem ends_of_load_error {e : Error} (asks : perform look command = enumerate look file test print)
    (failed : (loadFile look file test).result = .error e) : Ends look command 1 "" [e] := by
  have ended := ends_of_perform look command
  rw [asks, enumerate, failed] at ended
  dsimp only at ended
  rwa [reports_log] at ended

theorem ends_of_run {e : Engine Unit} {r : Engine.Run Unit}
    (asks : perform look command = enumerate look file test print)
    (loaded : (loadFile look file test).result = .ok e) (ran : e.run = .ok r) :
    Ends look command 0 (print r.combinations) [] := by
  have ended := ends_of_perform look command
  simp only [asks, enumerate, loaded, ran] at ended
  rw [reports_log, ← List.append_nil (List.map _ _), reports_log] at ended
  exact ended

end

/-- Where the file yields an engine, the cursors that the filters of its block accept are counted, and
the combinations they select are printed in that order; else every command reports the error. -/
theorem list_and_count_agree (look : Look) (file : String) (test : Option String) :
    (∀ e, (loadFile look file test).result = .ok e →
      ∃ dimensions combinations, Declares look file test dimensions ∧
        List.Forall₂ (Engine.Selects dimensions) (Engine.accepted dimensions) combinations ∧
        Ends look (.count file test) 0 (toString (Engine.accepted dimensions).length ++ "\n") [] ∧
        Ends look (.list file test .text) 0 (numberedText combinations) [] ∧
        Ends look (.list file test .json) 0 (arrayText combinations) []) ∧
      ∀ e, (loadFile look file test).result = .error e →
        Ends look (.count file test) 1 "" [e] ∧ Ends look (.list file test .text) 1 "" [e] ∧
          Ends look (.list file test .json) 1 "" [e] := by
  constructor
  · intro e loaded
    obtain ⟨dimensions, declares, built⟩ := loadFile_eq_ok_iff.1 loaded
    obtain ⟨r, ran, -, combinations⟩ := Engine.run_accepts built
    -- An object without members would be laid out in one line.
    have filled : ∀ c ∈ r.combinations, c.entries ≠ [] := by
      intro c listed
      rw [combinations] at listed
      obtain ⟨cursor, member, rfl⟩ := List.mem_map.1 listed
      have within := Engine.accepted_within member
      have nonempty := (Engine.mem_accepted.1 member).1
      exact (Engine.selects_selected within).entries_ne_nil nonempty within.length_eq
    refine ⟨dimensions, r.combinations, declares, ?_, ?_, ?_, ?_⟩
    · rw [combinations, List.forall₂_map_right_iff, List.forall₂_same]
      exact fun cursor member => Engine.selects_selected (Engine.accepted_within member)
    · have counted : Ends look (.count file test) 0 (countText r.combinations) [] :=
        ends_of_run rfl loaded ran
      rwa [countText, combinations, List.length_map] at counted
    · have listed : Ends look (.list file test .text) 0 (listText .text r.combinations) [] :=
        ends_of_run rfl loaded ran
      rwa [listText, numberedBlocks_eq] at listed
    · have listed : Ends look (.list file test .json) 0 (listText .json r.combinations) [] :=
        ends_of_run rfl loaded ran
      rwa [listText_json filled] at listed
  · intro e loaded
    exact ⟨ends_of_load_error rfl loaded, ends_of_load_error rfl loaded, ends_of_load_error rfl loaded⟩

def letters : List Dimension :=
  [⟨"L", [.text "x", .text "y"], none, by decide, by simp, by simp⟩,
    ⟨"N", [.int 3, .int 4], some [none, some "L!=0"], by decide, by simp, by simp⟩]

def letterSource : String :=
  "combinations:\n- \x7bname: L, values: [x, y]\x7d\n" ++
    "- \x7bname: N, values: [3, \x7bvalue: 4, filter: L!=0\x7d]\x7d"

def letterRoot : Yaml.Node :=
  let word (text : String) : Yaml.Node := .scalar ⟨text, true, none⟩
  let filtered := .mapping none [(word "value", word "4"), (word "filter", word "L!=0")]
  let dimension (name : String) (values : List Yaml.Node) : Yaml.Node :=
    .mapping none [(word "name", word name), (word "values", .sequence none values)]
  .mapping none [(word "combinations", .sequence none
    [dimension "L" [word "x", word "y"], dimension "N" [word "3", filtered]])]

def letterFile : File :=
  ⟨some [⟨"L", [⟨.text "x", none⟩, ⟨.text "y", none⟩]⟩,
    ⟨"N", [⟨.int 3, none⟩, ⟨.int 4, some "L!=0"⟩]⟩], .empty⟩

def lettersAt : Look :=
  fun _ => .ok (.file letterSource.toUTF8)

def Answers (look : Look) (args : List String) (stdout : String) : Prop :=
  ∃ outcome, run? look none args = some outcome ∧ outcome.exit = 0 ∧ outcome.stdout = stdout ∧
    outcome.reports = []

set_option maxRecDepth 4000 in
theorem letters_parsed : Yaml.read? letterSource = some letterRoot := by
  cbv

set_option maxRecDepth 2000 in
theorem letters_declared (path : String) : Declares lettersAt path none letters := by
  have readable : (lettersAt path).bind FileTree.readText = .ok letterSource := by cbv
  have decoded : File.ofNode? letterRoot = some letterFile := rfl
  have read : File.read? letterSource = .ok letterFile := by
    rw [File.read?, letters_parsed, Option.bind_some, decoded]
  exact ⟨letterSource, letterFile, .top, _, readable, read, rfl, by cbv⟩

theorem letters_text :
    numberedText ([[0, 0], [1, 0], [1, 1]].map (Engine.selected letters)) =
      "--- Combination 1 ---\nL: [x]\nN: [3]\n" ++ "--- Combination 2 ---\nL: [y]\nN: [3]\n" ++
        "--- Combination 3 ---\nL: [y]\nN: [4]\n" := by
  cbv

theorem letters_array :
    arrayText ([[0, 0], [1, 0], [1, 1]].map (Engine.selected letters)) =
      "[\n  \x7b\n    \"L\": \"x\",\n    \"N\": 3\n  \x7d,\n" ++
        "  \x7b\n    \"L\": \"y\",\n    \"N\": 3\n  \x7d,\n" ++
        "  \x7b\n    \"L\": \"y\",\n    \"N\": 4\n  \x7d\n]\n" := by
  cbv

theorem letters_are_counted :
    Answers lettersAt ["count", "letters.yaml"] "3\n" ∧
      Answers lettersAt ["list", "letters.yaml"]
        ("--- Combination 1 ---\nL: [x]\nN: [3]\n" ++ "--- Combination 2 ---\nL: [y]\nN: [3]\n" ++
          "--- Combination 3 ---\nL: [y]\nN: [4]\n") ∧
      Answers lettersAt ["list", "letters.yaml", "-f", "json"]
        ("[\n  \x7b\n    \"L\": \"x\",\n    \"N\": 3\n  \x7d,\n" ++
          "  \x7b\n    \"L\": \"y\",\n    \"N\": 3\n  \x7d,\n" ++
          "  \x7b\n    \"L\": \"y\",\n    \"N\": 4\n  \x7d\n]\n") := by
  have builds : (Engine.new letters : Except Error (Engine Unit)).isOk = true := by cbv
  have accepted : Engine.accepted letters = [[0, 0], [1, 0], [1, 1]] := by cbv
  cases built : (Engine.new letters : Except Error (Engine Unit)) with
  | error fault =>
    rw [built] at builds
    cases builds
  | ok e =>
    have loaded := loadFile_eq_ok_iff.2 ⟨letters, letters_declared "letters.yaml", built⟩
    obtain ⟨dimensions, combinations, declares, selects, counted, listed, exported⟩ :=
      (list_and_count_agree lettersAt "letters.yaml" none).1 e loaded
    obtain rfl := declares.unique (letters_declared "letters.yaml")
    rw [accepted] at counted selects
    have chosen := Engine.eq_map_selected selects
    rw [chosen, letters_text] at listed
    rw [chosen, letters_array] at exported
    exact ⟨counted none _ 0 (by cbv), listed none _ 0 (by cbv), exported none _ 0 (by cbv)⟩

end Cli

end ParamGrid
