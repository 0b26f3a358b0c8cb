/-
Shapes on the command line.

A shape is given to a command in two texts, the dimensions and the types.  The texts that a usable
descriptor of the standard rank class prints give that very shape (`shape_of_texts`), and nothing
else about the options depends on them (`toOptions_withInput`, `toOptions_withOutput`): they are
refused only for what they would be refused for without the shape.
-/
import Inference.CommandLine.ModelChoice
import Inference.Proofs.Tensor.ReadBack

namespace Inference

namespace ModelChoice

/-! ### Arguments with a shape and without -/

/-- No shape is given for the input. -/
def withoutInput (arguments : ModelChoice) : ModelChoice :=
  { arguments with inputDims := none, inputTypes := none }

/-- The texts of a descriptor are given for the input. -/
def withInput (arguments : ModelChoice) (d : Descriptor) : ModelChoice :=
  { arguments with inputDims := some d.dimensionsText, inputTypes := some d.typesText }

/-- No shape is given for the output. -/
def withoutOutput (arguments : ModelChoice) : ModelChoice :=
  { arguments with outputDims := none, outputTypes := none }

/-- The texts of a descriptor are given for the output. -/
def withOutput (arguments : ModelChoice) (d : Descriptor) : ModelChoice :=
  { arguments with outputDims := some d.dimensionsText, outputTypes := some d.typesText }

/-! ### Options of the backend -/

/-- Options of the backend have nothing to do with the other options. -/
theorem addCustom_comm (change : Options → Options)
    (apart : ∀ (options : Options) (key value : String),
      (change options).setCustom key value = change (options.setCustom key value))
    (options : Options) (pairs : List String) :
    addCustom (change options) pairs = (addCustom options pairs).map change := by
  induction pairs generalizing options with
  | nil => rfl
  | cons pair rest ih =>
      unfold addCustom
      cases Text.cut? '=' pair.toList with
      | none => rfl
      | some sides =>
          simp only [apart]
          exact ih _

theorem cut?_isSome {separator : Char} {text : List Char} (h : separator ∈ text) :
    (Text.cut? separator text).isSome = true := by
  induction text with
  | nil => cases h
  | cons c rest ih =>
      unfold Text.cut?
      split
      · rfl
      · rename_i other
        rw [Option.isSome_map]
        exact ih ((List.mem_cons.1 h).resolve_left (Ne.symm other))

theorem addCustom_ok {pairs : List String} (formed : ∀ pair ∈ pairs, '=' ∈ pair.toList)
    (options : Options) : ∃ after, addCustom options pairs = .ok after := by
  induction pairs generalizing options with
  | nil => exact ⟨options, rfl⟩
  | cons pair rest ih =>
      obtain ⟨sides, cut⟩ :=
        Option.isSome_iff_exists.1 (cut?_isSome (formed pair List.mem_cons_self))
      unfold addCustom
      rw [cut]
      exact ih (fun pair member => formed pair (List.mem_cons_of_mem _ member)) _

/-! ### Shapes -/

/-- The texts of a usable descriptor give its shape. -/
theorem shape_of_texts {d : Descriptor} (valid : d.validate = .ok ())
    (standard : d.rank = .standard) : ∃ info, info.unnamed = d.unnamed
      ∧ ∀ what, shape what (some d.dimensionsText) (some d.typesText) = .ok (some info) := by
  obtain ⟨shaped, typed, dims, types, count, same⟩ :=
    Descriptor.unnamed_of_texts (r := {}) valid standard.symm
  refine ⟨typed, same, fun what => ?_⟩
  have counts : typed.count = shaped.count := by
    rw [count, ← Descriptor.count_unnamed typed, same, Descriptor.count_unnamed]
  have usable : typed.validate = .ok () := (Descriptor.validate_of_unnamed same).trans valid
  have first : edited (({} : Descriptor).setDimensionsText d.dimensionsText) = .ok shaped := by
    rw [dims]
    rfl
  have second : edited (shaped.setTypesText d.typesText) = .ok typed := by
    rw [types]
    rfl
  simp only [shape, first, bind, Except.bind, second, counts, ne_eq, not_true_eq_false, if_false,
    usable, pure, Except.pure]

theorem shape_none (what : String) : shape what none none = .ok none := rfl

/-- A shape that is given for the input goes into the options, and changes nothing else. -/
theorem toOptions_withInput {d info : Descriptor} (arguments : ModelChoice)
    (shaped : ∀ what, shape what (some d.dimensionsText) (some d.typesText) = .ok (some info)) :
    (arguments.withInput d).toOptions
      = arguments.withoutInput.toOptions.map fun options =>
        { options with input := some info } := by
  simp only [toOptions, withInput, withoutInput, shaped, shape_none, bind, Except.bind]
  cases shape "output" arguments.outputDims arguments.outputTypes with
  | error fault => rfl
  | ok output =>
      exact addCustom_comm (fun options => { options with input := some info })
        (fun _ _ _ => rfl) { Options.ofModel arguments.model with
          output, framework := arguments.framework, accelerator := arguments.accelerator
          timeout := arguments.timeout } arguments.custom

/-- So does one that is given for the output. -/
theorem toOptions_withOutput {d info : Descriptor} (arguments : ModelChoice)
    (shaped : ∀ what, shape what (some d.dimensionsText) (some d.typesText) = .ok (some info)) :
    (arguments.withOutput d).toOptions
      = arguments.withoutOutput.toOptions.map fun options =>
        { options with output := some info } := by
  simp only [toOptions, withOutput, withoutOutput, shaped, shape_none, bind, Except.bind]
  cases shape "input" arguments.inputDims arguments.inputTypes with
  | error fault => rfl
  | ok input =>
      exact addCustom_comm (fun options => { options with output := some info })
        (fun _ _ _ => rfl) { Options.ofModel arguments.model with
          input, framework := arguments.framework, accelerator := arguments.accelerator
          timeout := arguments.timeout } arguments.custom

theorem toOptions_bare {arguments : ModelChoice}
    (formed : ∀ pair ∈ arguments.custom, '=' ∈ pair.toList) :
    ∃ options, arguments.withoutInput.withoutOutput.toOptions = .ok options :=
  addCustom_ok formed _

end ModelChoice

/-! ### Shapes are read back -/

/-- For every usable descriptor: its dimensions and types can be read into any descriptor of its
rank class, whatever that held before, and make it agree.  If the rank class is the standard one,
the two texts can be given on a command line, for the input, for the output or for both, and the
shape in the options agrees; otherwise the options are those of the command line without it. -/
theorem Descriptor.texts_read_back {d : Descriptor} (valid : d.validate = .ok ()) :
    (∀ r : Descriptor, r.rank = d.rank → ∃ shaped typed,
        r.setDimensionsText d.dimensionsText = (.ok (), shaped)
          ∧ shaped.setTypesText d.typesText = (.ok (), typed)
          ∧ typed.agrees d = true ∧ typed.validate = .ok ())
      ∧ (d.rank = .standard → ∃ info, info.agrees d = true ∧ info.validate = .ok ()
        ∧ ∀ arguments : ModelChoice,
          (arguments.withInput d).toOptions
              = arguments.withoutInput.toOptions.map (fun options =>
                { options with input := some info })
            ∧ (arguments.withOutput d).toOptions
              = arguments.withoutOutput.toOptions.map (fun options =>
                { options with output := some info })
            ∧ ((∀ pair ∈ arguments.custom, '=' ∈ pair.toList) →
              (∃ options, (arguments.withoutOutput.withInput d).toOptions = .ok options
                  ∧ options.input = some info)
                ∧ (∃ options, (arguments.withoutInput.withOutput d).toOptions = .ok options
                  ∧ options.output = some info)
                ∧ ∃ options, ((arguments.withInput d).withOutput d).toOptions = .ok options
                  ∧ options.input = some info ∧ options.output = some info)) := by
  refine ⟨?_, ?_⟩
  · intro r same
    obtain ⟨shaped, typed, dims, types, -, unnamed⟩ := unnamed_of_texts valid same
    exact ⟨shaped, typed, dims, types, agrees_of_unnamed unnamed,
      (validate_of_unnamed unnamed).trans valid⟩
  · intro standard
    obtain ⟨info, unnamed, shaped⟩ := ModelChoice.shape_of_texts valid standard
    refine ⟨info, agrees_of_unnamed unnamed, (validate_of_unnamed unnamed).trans valid, ?_⟩
    intro arguments
    refine ⟨arguments.toOptions_withInput shaped, arguments.toOptions_withOutput shaped, ?_⟩
    intro formed
    obtain ⟨options, bare⟩ := ModelChoice.toOptions_bare formed
    have input : (arguments.withoutOutput.withInput d).toOptions
        = .ok { options with input := some info } := by
      have swap : arguments.withoutOutput.withoutInput = arguments.withoutInput.withoutOutput := rfl
      rw [ModelChoice.toOptions_withInput _ shaped, swap, bare]
      rfl
    have output : (arguments.withoutInput.withOutput d).toOptions
        = .ok { options with output := some info } := by
      rw [ModelChoice.toOptions_withOutput _ shaped, bare]
      rfl
    have both : ((arguments.withInput d).withOutput d).toOptions
        = .ok { options with input := some info, output := some info } := by
      have swap : (arguments.withInput d).withoutOutput = arguments.withoutOutput.withInput d := rfl
      rw [ModelChoice.toOptions_withOutput _ shaped, swap, input]
      rfl
    exact ⟨⟨_, input, rfl⟩, ⟨_, output, rfl⟩, ⟨_, both, rfl, rfl⟩⟩

/-- A picture and a vector. -/
def pictureAndVector : Descriptor where
  tensors := [
    { name := some "picture", type := .uint8, shape := .ofList [3, 224, 224] },
    { type := .float32, shape := .ofList [10] }]

/-- A descriptor that holds other tensors, and more of them. -/
def threeTensors : Descriptor where
  tensors := [{ name := some "sound", type := .int8, shape := .ofList [7] }, {}, {}]

/-- A picture and a vector are read into another descriptor, and given on a command line together
with an option of the backend. -/
theorem picture_read_back : pictureAndVector.validate = .ok ()
    ∧ pictureAndVector.dimensionsText = "3:224:224:1,10:1:1:1"
    ∧ pictureAndVector.typesText = "uint8,float32"
    ∧ (∃ shaped typed, threeTensors.setDimensionsText "3:224:224:1,10:1:1:1" = (.ok (), shaped)
      ∧ shaped.setTypesText "uint8,float32" = (.ok (), typed)
      ∧ typed.agrees pictureAndVector = true)
    ∧ ∃ info options, info.agrees pictureAndVector = true
      ∧ (({ model := "m.tflite", custom := ["threads=4"] } : ModelChoice).withoutOutput.withInput
        pictureAndVector).toOptions = .ok options
      ∧ options.input = some info := by
  have valid : pictureAndVector.validate = .ok () := by
    refine Descriptor.validate_eq_ok_iff.2 ?_
    decide +kernel
  have dims : pictureAndVector.dimensionsText = "3:224:224:1,10:1:1:1" := by decide +kernel
  have types : pictureAndVector.typesText = "uint8,float32" := by decide +kernel
  obtain ⟨reads, gives⟩ := Descriptor.texts_read_back valid
  obtain ⟨shaped, typed, shape, type, same, -⟩ := reads threeTensors rfl
  obtain ⟨info, agrees, -, given⟩ := gives rfl
  obtain ⟨-, -, formed⟩ := given { model := "m.tflite", custom := ["threads=4"] }
  obtain ⟨⟨options, taken, input⟩, -⟩ := formed (by decide)
  rw [dims] at shape
  rw [types] at type
  exact ⟨valid, dims, types, ⟨shaped, typed, shape, type, same⟩, info, options, agrees, taken,
    input⟩

end Inference
