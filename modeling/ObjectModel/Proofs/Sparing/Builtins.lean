import ObjectModel.Perform
import ObjectModel.Proofs.Sparing.Actions

/-! # Builtin methods remove no constants

Every builtin method is sparing. Most of them are put together of sparing actions; those that do something with
each of several values are so by induction on these.
-/

namespace ObjectModel

open Builtin

/-! ## Arguments -/

instance sparing_checkArity (arity : Arity) (arguments : List Value) :
    Sparing (checkArity arity arguments) := by
  rw [checkArity]
  infer_instance

instance sparing_refuseKind {α : Type} (value : Value) (complaint : String) :
    Sparing (refuseKind value complaint : Action α) := by
  rw [refuseKind]
  infer_instance

instance sparing_expectName (value : Value) : Sparing (expectName value) := by
  unfold expectName
  split <;> infer_instance

instance sparing_expectClass (value : Value) : Sparing (expectClass value) := by
  unfold expectClass
  split <;> infer_instance

instance sparing_refuseConversion {α : Type} (value : Value) (needed : String) :
    Sparing (refuseConversion value needed : Action α) := by
  rw [refuseConversion]
  infer_instance

instance sparing_expectText (value : Value) : Sparing (expectText value) := by
  rw [expectText]
  refine Sparing.andThen fun content => ?_
  cases content <;> infer_instance

instance sparing_expectInt (value : Value) : Sparing (expectInt value) := by
  unfold expectInt
  split <;> infer_instance

instance sparing_expectItems (value : Value) : Sparing (expectItems value) := by
  rw [expectItems]
  refine Sparing.andThen fun items => ?_
  cases items <;> infer_instance

instance sparing_expectEncoding (value : Value) : Sparing (expectEncoding value) := by
  unfold expectEncoding
  split <;> infer_instance

/-! ## Classes and modules -/

instance sparing_forM (values : List Value) (act : Value → Action Unit)
    [hact : ∀ value, Sparing (act value)] : Sparing (values.forM act) := by
  induction values with
  | nil => exact .pure ()
  | cons first rest ih => exact .bind

instance sparing_eachName (arguments : List Value) (act : String → Action Unit)
    [hact : ∀ name, Sparing (act name)] : Sparing (eachName arguments act) := by
  rw [eachName]
  infer_instance

instance sparing_mixAll (arguments : List Value) (mix : ClassId → Action Bool)
    [hmix : ∀ mixin, Sparing (mix mixin)] : Sparing (mixAll arguments mix) := by
  rw [mixAll]
  infer_instance

instance sparing_constantAt (scope : ClassId) (path : List String) :
    Sparing (constantAt scope path) := by
  induction path generalizing scope with
  | nil => exact .pure Value.nil
  | cons name rest ih =>
      cases rest with
      | nil => exact sparing_constantGet scope name
      | cons next others =>
          rw [constantAt]
          · infer_instance
          · simp

instance sparing_includesModule (id : ClassId) (value : Value) : Sparing (includesModule id value) := by
  rw [includesModule]
  infer_instance

instance sparing_defineAttribute (id : ClassId) (reader writer : Bool) (name : String) :
    Sparing (defineAttribute id reader writer name) := by
  have hreader : Sparing (defineMethod id name (.reader ("@" ++ name))) :=
    sparing_defineMethod id name trivial
  have hwriter : Sparing (defineMethod id (name ++ "=") (.writer ("@" ++ name))) :=
    sparing_defineMethod id (name ++ "=") trivial
  rw [defineAttribute]
  dsimp only
  -- the search for an instance is kept small by going through the two choices first
  split
  · infer_instance
  · split <;> infer_instance

instance sparing_defineAttributes (id : ClassId) (reader writer : Bool) (values : List Value) :
    Sparing (defineAttributes id reader writer values) := by
  induction values with
  | nil => exact .pure []
  | cons first rest ih =>
      rw [defineAttributes]
      infer_instance

instance sparing_bundle (values : List Value) : Sparing (bundle values) := by
  unfold bundle
  split <;> infer_instance

instance sparing_runModule (routine : ModuleRoutine) (receiver : Value) (arguments : List Value) :
    Sparing (runModule routine receiver arguments) := by
  cases routine with
  | nameText =>
      rw [runModule]
      refine Sparing.andThen fun _ => Sparing.andThen fun _ =>
        Sparing.andThen fun name => ?_
      cases name <;> infer_instance
  | _ =>
      rw [runModule]
      infer_instance

section

variable {run : Runner} [hrun : run.IsSparing]

instance sparing_instantiate (cls : ClassId) (arguments : List Value) :
    Sparing (instantiate run cls arguments) := by
  rw [instantiate]
  infer_instance

instance sparing_makeString (cls : ClassId) (arguments : List Value) :
    Sparing (makeString cls arguments) := by
  rw [makeString]
  refine Sparing.andThen fun _ => Sparing.andThen fun value => ?_
  split <;> infer_instance

instance sparing_makeInstance (cls : ClassId) (arguments : List Value) :
    Sparing (makeInstance run cls arguments) := by
  rw [makeInstance]
  dsimp only
  cases arguments.head? <;> infer_instance

instance sparing_runClass (routine : ClassRoutine) (receiver : Value) (arguments : List Value) :
    Sparing (runClass run routine receiver arguments) := by
  cases routine with
  | superclass =>
      rw [runClass]
      refine Sparing.andThen fun _ => Sparing.andThen fun _ =>
        Sparing.andThen fun superclass => ?_
      cases superclass <;> infer_instance
  | _ =>
      rw [runClass]
      infer_instance

/-! ## Objects, texts and numbers -/

instance sparing_runBasic (routine : BasicRoutine) (receiver : Value) (arguments : List Value) :
    Sparing (runBasic run routine receiver arguments) := by
  unfold runBasic
  split <;> infer_instance

instance sparing_runKernel (routine : KernelRoutine) (receiver : Value) (arguments : List Value) :
    Sparing (runKernel run routine receiver arguments) := by
  cases routine <;> (rw [runKernel]; infer_instance)

instance sparing_runSingular (routine : SingularRoutine) (receiver : Value) (arguments : List Value) :
    Sparing (runSingular routine receiver arguments) := by
  cases routine <;> (rw [runSingular]; infer_instance)

instance sparing_runString (routine : StringRoutine) (receiver : Value) (arguments : List Value) :
    Sparing (runString routine receiver arguments) := by
  cases routine <;> (rw [runString]; infer_instance)

instance sparing_runSymbol (routine : SymbolRoutine) (receiver : Value) (arguments : List Value) :
    Sparing (runSymbol routine receiver arguments) := by
  cases routine <;> (rw [runSymbol]; infer_instance)

instance sparing_anyEqual (other : Value) (values : List Value) :
    Sparing (anyEqual run other values) := by
  induction values with
  | nil => exact .pure false
  | cons first rest ih =>
      rw [anyEqual]
      infer_instance

instance sparing_runArray (routine : ArrayRoutine) (receiver : Value) (arguments : List Value) :
    Sparing (runArray run routine receiver arguments) := by
  cases routine <;> (rw [runArray]; infer_instance)

instance sparing_calculate (operation : Arithmetic) (receiver other : Value) :
    Sparing (calculate operation receiver other) := by
  rw [calculate]
  refine Sparing.andThen fun own => ?_
  split <;> infer_instance

instance sparing_runNumber (routine : NumberRoutine) (receiver : Value) (arguments : List Value) :
    Sparing (runNumber routine receiver arguments) := by
  cases routine <;> (rw [runNumber]; infer_instance)

instance sparing_compareBySend (first second : Value) : Sparing (compareBySend run first second) := by
  rw [compareBySend]
  refine Sparing.andThen fun answer => ?_
  split <;> infer_instance

instance sparing_ordered (first second : Value) : Sparing (ordered run first second) := by
  rw [ordered]
  refine Sparing.andThen fun order => ?_
  cases order <;> infer_instance

instance sparing_clamp (value least greatest : Value) : Sparing (clamp run value least greatest) := by
  rw [clamp]
  dsimp only
  infer_instance

instance sparing_runComparable (routine : ComparableRoutine) (receiver : Value)
    (arguments : List Value) : Sparing (runComparable run routine receiver arguments) := by
  cases routine <;> (rw [runComparable]; infer_instance)

/-! ## Encodings -/

instance sparing_newStrings (contents : List String) : Sparing (newStrings contents) := by
  induction contents with
  | nil => exact .pure []
  | cons first rest ih =>
      rw [newStrings]
      infer_instance

instance sparing_findEncoding (value : Value) : Sparing (findEncoding value) := by
  unfold findEncoding
  split <;> infer_instance

instance sparing_runEncoding (routine : EncodingRoutine) (receiver : Value)
    (arguments : List Value) : Sparing (runEncoding run routine receiver arguments) := by
  cases routine <;> (rw [runEncoding]; infer_instance)

/-- Every builtin routine is sparing. -/
instance sparing_routine (routine : Routine) (receiver : Value) (arguments : List Value) :
    Sparing (routine.perform run receiver arguments) := by
  cases routine <;> (rw [Routine.perform]; infer_instance)

end

end ObjectModel
