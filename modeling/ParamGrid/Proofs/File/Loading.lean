import ParamGrid.File.Load

set_option autoImplicit false

namespace ParamGrid

namespace Log.Logged

variable {α β : Type}

theorem result_bind (x : Logged α) (f : α → Logged β) :
    (x >>= f).result = x.result.bind fun a => (f a).result := by
  show (andThen x f).result = _
  unfold andThen
  cases x.result <;> rfl

@[simp] theorem result_ofResult (r : Except Error α) : (ofResult r).result = r := rfl

@[simp] theorem result_event (e : Event) : (event e).result = .ok () := rfl

@[simp] theorem result_pure (a : α) : (pure a : Logged α).result = .ok a := rfl

end Log.Logged

namespace File

variable {σ : Type} {source : String} {file : File} {test : Option String}

theorem orShapeError_eq_ok_iff {α : Type} {x : Except ShapeFault α} {a : α} :
    orShapeError x = .ok a ↔ x = .ok a := by
  cases x <;> simp [orShapeError]

theorem orShapeError_eq_error_iff {α : Type} {x : Except ShapeFault α} {e : Error} :
    orShapeError x = .error e ↔ ∃ fault, x = .error fault ∧ e = .shape fault := by
  cases x <;> simp [orShapeError, eq_comm]

theorem loadDimensions_of_decoded (decoded : read? source = .ok file) :
    (loadDimensions source test).result =
      match file.choose test with
      | .ok (_, records) => orShapeError (dimensions records)
      | .error fault => .error (.load fault) := by
  unfold loadDimensions
  rw [Log.Logged.result_bind, Log.Logged.result_ofResult, decoded]
  show (chooseLogged file test >>= _).result = _
  rw [Log.Logged.result_bind, chooseLogged]
  cases file.choose test <;> rfl

theorem loadDimensions_eq_ok_iff {ds : List Dimension} :
    (loadDimensions source test).result = .ok ds ↔
      ∃ file choice records, read? source = .ok file ∧ file.choose test = .ok (choice, records) ∧
        dimensions records = .ok ds := by
  cases decoded : read? source with
  | error fault =>
    unfold loadDimensions
    rw [Log.Logged.result_bind, Log.Logged.result_ofResult, decoded]
    simp [orLoadError, Except.bind]
  | ok file =>
    rw [loadDimensions_of_decoded decoded]
    cases chosen : file.choose test with
    | error fault => simp [chosen]
    | ok found =>
      obtain ⟨choice, records⟩ := found
      simp [chosen, orShapeError_eq_ok_iff, and_assoc]

theorem buildEngine_result (dimensions : List Dimension) :
    (buildEngine dimensions : Log.Logged (Engine σ)).result = Engine.new dimensions := by
  unfold buildEngine
  cases Engine.new dimensions <;> rfl

theorem loadEngine_result :
    (loadEngine source test : Log.Logged (Engine σ)).result =
      (loadDimensions source test).result.bind Engine.new := by
  unfold loadEngine
  rw [Log.Logged.result_bind]
  simp only [buildEngine_result]

theorem loadEngine_eq_ok_iff {e : Engine σ} :
    (loadEngine source test).result = .ok e ↔
      ∃ dimensions, (loadDimensions source test).result = .ok dimensions ∧
        Engine.new dimensions = .ok e := by
  rw [loadEngine_result]
  cases (loadDimensions source test).result <;> simp [Except.bind]

end File

end ParamGrid
