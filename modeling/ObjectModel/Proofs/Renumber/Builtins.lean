import ObjectModel.Perform
import ObjectModel.Proofs.Renumber.Calls

/-! # Builtin methods and installation numbers

Every builtin method does the same with other installation numbers in the state, as long as the running of
bodies does. Most of them are put together of actions that do; those that do something with each of several
values do so by induction on these.
-/

namespace ObjectModel

open Builtin

variable {number : Nat → Nat}

/-! ## Arguments -/

instance steady_checkArity (arity : Arity) (arguments : List Value) :
    Steady number (checkArity arity arguments) := by
  rw [checkArity]
  infer_instance

instance steady_refuseKind {α : Type} (value : Value) (complaint : String) :
    Steady number (refuseKind value complaint : Action α) := by
  rw [refuseKind]
  infer_instance

instance steady_expectName (value : Value) : Steady number (expectName value) := by
  have hsymbol (name : Symbol) : Steady number (ask fun state => state.symbolText name) := .ask fun _ => rfl
  have htext : Steady number (ask fun state => (state.text? value).getD "") := .ask fun _ => by simp
  unfold expectName
  split <;> infer_instance

instance steady_expectClass (value : Value) : Steady number (expectClass value) := by
  unfold expectClass
  split <;> infer_instance

instance steady_refuseConversion {α : Type} (value : Value) (needed : String) :
    Steady number (refuseConversion value needed : Action α) := by
  rw [refuseConversion]
  infer_instance

instance steady_expectText (value : Value) : Steady number (expectText value) := by
  rw [expectText]
  refine Parallel.andThen fun content => ?_
  cases content <;> infer_instance

instance steady_expectInt (value : Value) : Steady number (expectInt value) := by
  unfold expectInt
  split <;> infer_instance

instance steady_expectItems (value : Value) : Steady number (expectItems value) := by
  have hitems : Steady number (ask fun state => state.items? value) := .ask fun _ => by simp
  rw [expectItems]
  refine Parallel.andThen fun items => ?_
  cases items <;> infer_instance

instance steady_expectEncoding (value : Value) : Steady number (expectEncoding value) := by
  unfold expectEncoding
  split <;> infer_instance

/-! ## Classes and modules -/

instance steady_forM (values : List Value) (act : Value → Action Unit)
    [hact : ∀ value, Steady number (act value)] : Steady number (values.forM act) := by
  induction values with
  | nil => exact .pure ()
  | cons first rest ih => exact .bind

instance steady_eachName (arguments : List Value) (act : String → Action Unit)
    [hact : ∀ name, Steady number (act name)] : Steady number (eachName arguments act) := by
  rw [eachName]
  infer_instance

instance steady_mixAll (arguments : List Value) (mix : ClassId → Action Bool)
    [hmix : ∀ mixin, Steady number (mix mixin)] : Steady number (mixAll arguments mix) := by
  rw [mixAll]
  infer_instance

instance steady_constantAt (scope : ClassId) (path : List String) :
    Steady number (constantAt scope path) := by
  induction path generalizing scope with
  | nil => exact .pure Value.nil
  | cons name rest ih =>
      cases rest with
      | nil => exact steady_constantGet scope name
      | cons next others =>
          rw [constantAt]
          · infer_instance
          · simp

instance steady_includesModule (id : ClassId) (value : Value) :
    Steady number (includesModule id value) := by
  rw [includesModule]
  refine Parallel.andThen fun mixin => .get_same (fun _ => by simp) fun state => ?_
  infer_instance

instance steady_defineAttribute (id : ClassId) (reader writer : Bool) (name : String) :
    Steady number (defineAttribute id reader writer name) := by
  have hreader : Steady number (defineMethod id name (.reader ("@" ++ name))) :=
    parallel_defineMethod id name (.reader ("@" ++ name))
  have hwriter : Steady number (defineMethod id (name ++ "=") (.writer ("@" ++ name))) :=
    parallel_defineMethod id (name ++ "=") (.writer ("@" ++ name))
  rw [defineAttribute]
  dsimp only
  -- the search for an instance is kept small by going through the two choices first
  split
  · infer_instance
  · split <;> infer_instance

instance steady_defineAttributes (id : ClassId) (reader writer : Bool) (values : List Value) :
    Steady number (defineAttributes id reader writer values) := by
  induction values with
  | nil => exact .pure []
  | cons first rest ih =>
      rw [defineAttributes]
      infer_instance

instance steady_bundle (values : List Value) : Steady number (bundle values) := by
  unfold bundle
  split <;> infer_instance

instance steady_runModule (routine : ModuleRoutine) (receiver : Value) (arguments : List Value) :
    Steady number (runModule routine receiver arguments) := by
  have hconstants (id : ClassId) (inherited : Bool) :
      Steady number (ask fun state => state.graph.constantNames id inherited) :=
    .ask fun _ => by simp
  have hancestors (id : ClassId) : Steady number (ask fun state => state.graph.ancestors id) :=
    .ask fun _ => by simp
  have hmethods (id : ClassId) (inherited : Bool) :
      Steady number (ask fun state => state.graph.instanceMethods id inherited) :=
    .ask fun _ => by simp
  have hdefined (id : ClassId) (name : String) :
      Steady number (ask fun state => Value.bool (state.methodDefined id name)) :=
    .ask fun _ => by simp
  have hname (id : ClassId) : Steady number (ask fun state => (state.graph.record id).name) :=
    .ask fun _ => by simp
  cases routine with
  | nameText =>
      rw [runModule]
      refine Parallel.andThen fun _ => Parallel.andThen fun _ => Parallel.andThen fun name => ?_
      cases name <;> infer_instance
  | _ =>
      rw [runModule]
      infer_instance

section

variable {run : Runner} [hrun : run.IsSteady number]

instance steady_instantiate (cls : ClassId) (arguments : List Value) :
    Steady number (instantiate run cls arguments) := by
  rw [instantiate]
  infer_instance

instance steady_makeString (cls : ClassId) (arguments : List Value) :
    Steady number (makeString cls arguments) := by
  rw [makeString]
  refine Parallel.andThen fun _ => Parallel.andThen fun value => ?_
  split <;> infer_instance

instance steady_makeInstance (cls : ClassId) (arguments : List Value) :
    Steady number (makeInstance run cls arguments) := by
  rw [makeInstance]
  refine .get_same (fun _ => by simp [ClassRecord.isSingleton]) fun state => ?_
  dsimp only
  cases arguments.head? <;> infer_instance

instance steady_runClass (routine : ClassRoutine) (receiver : Value) (arguments : List Value) :
    Steady number (runClass run routine receiver arguments) := by
  have hsuper (id : ClassId) : Steady number (ask fun state => state.graph.superclass? id) :=
    .ask fun _ => by simp
  cases routine with
  | superclass =>
      rw [runClass]
      refine Parallel.andThen fun _ => Parallel.andThen fun _ => Parallel.andThen fun superclass => ?_
      cases superclass <;> infer_instance
  | _ =>
      rw [runClass]
      infer_instance

/-! ## Objects, texts and numbers -/

instance steady_runBasic (routine : BasicRoutine) (receiver : Value) (arguments : List Value) :
    Steady number (runBasic run routine receiver arguments) := by
  unfold runBasic
  split <;> infer_instance

instance steady_toText (value : Value) : Steady number (ask fun state => state.toText value) :=
  .ask fun _ => by simp

instance steady_runKernel (routine : KernelRoutine) (receiver : Value) (arguments : List Value) :
    Steady number (runKernel run routine receiver arguments) := by
  have hclass : Steady number (ask fun state => Value.cls (state.classOf receiver)) :=
    .ask fun _ => by simp
  have hnames : Steady number (ask fun state => (state.variablesOf receiver).keys) := .ask fun _ => by simp
  have hfrozen : Steady number (ask fun state => Value.bool (state.isFrozen receiver)) :=
    .ask fun _ => by simp
  have hinstance (cls : ClassId) :
      Steady number (ask fun state => Value.bool (state.classOf receiver = cls)) :=
    .ask fun _ => by simp
  cases routine <;> (rw [runKernel]; infer_instance)

instance steady_runSingular (routine : SingularRoutine) (receiver : Value) (arguments : List Value) :
    Steady number (runSingular routine receiver arguments) := by
  cases routine <;> (rw [runSingular]; infer_instance)

instance steady_runString (routine : StringRoutine) (receiver : Value) (arguments : List Value) :
    Steady number (runString routine receiver arguments) := by
  have hequal : Steady number (ask fun state =>
      match state.text? (argument arguments 0) with
      | some other => Value.bool (state.text? receiver = some other)
      | none => .bool false) :=
    .ask fun _ => by simp
  have hcompare : Steady number (ask fun state =>
      match state.text? receiver, state.text? (argument arguments 0) with
      | some own, some other => orderValue (Ord.compare own other)
      | _, _ => .nil) :=
    .ask fun _ => by simp
  cases routine <;> (rw [runString]; infer_instance)

instance steady_runSymbol (routine : SymbolRoutine) (receiver : Value) (arguments : List Value) :
    Steady number (runSymbol routine receiver arguments) := by
  have hlength : Steady number (ask fun state => Value.ofInt (state.toText receiver).length) :=
    .ask fun _ => by simp
  cases routine <;> (rw [runSymbol]; infer_instance)

instance steady_anyEqual (other : Value) (values : List Value) :
    Steady number (anyEqual run other values) := by
  induction values with
  | nil => exact .pure false
  | cons first rest ih =>
      rw [anyEqual]
      infer_instance

instance steady_runArray (routine : ArrayRoutine) (receiver : Value) (arguments : List Value) :
    Steady number (runArray run routine receiver arguments) := by
  cases routine <;> (rw [runArray]; infer_instance)

instance steady_calculate (operation : Arithmetic) (receiver other : Value) :
    Steady number (calculate operation receiver other) := by
  rw [calculate]
  refine Parallel.andThen fun own => ?_
  split <;> infer_instance

instance steady_runNumber (routine : NumberRoutine) (receiver : Value) (arguments : List Value) :
    Steady number (runNumber routine receiver arguments) := by
  cases routine <;> (rw [runNumber]; infer_instance)

instance steady_compareBySend (first second : Value) :
    Steady number (compareBySend run first second) := by
  rw [compareBySend]
  refine Parallel.andThen fun answer => ?_
  split <;> infer_instance

instance steady_ordered (first second : Value) : Steady number (ordered run first second) := by
  rw [ordered]
  refine Parallel.andThen fun order => ?_
  cases order with
  | none => exact .get_same (fun _ => by simp) fun _ => inferInstance
  | some order => infer_instance

instance steady_clamp (value least greatest : Value) : Steady number (clamp run value least greatest) := by
  rw [clamp]
  dsimp only
  infer_instance

instance steady_runComparable (routine : ComparableRoutine) (receiver : Value)
    (arguments : List Value) : Steady number (runComparable run routine receiver arguments) := by
  cases routine <;> (rw [runComparable]; infer_instance)

/-! ## Encodings -/

instance steady_newStrings (contents : List String) : Steady number (newStrings contents) := by
  induction contents with
  | nil => exact .pure []
  | cons first rest ih =>
      rw [newStrings]
      infer_instance

instance steady_findEncoding (value : Value) : Steady number (findEncoding value) := by
  unfold findEncoding
  split <;> infer_instance

instance steady_runEncoding (routine : EncodingRoutine) (receiver : Value) (arguments : List Value) :
    Steady number (runEncoding run routine receiver arguments) := by
  cases routine <;> (rw [runEncoding]; infer_instance)

/-- Every builtin routine does the same with other installation numbers, unless it lacks the method of an unknown
name. -/
instance steady_routine (routine : Routine) (receiver : Value) (arguments : List Value) :
    Steady number (routine.perform run receiver arguments) := by
  cases routine <;> (rw [Routine.perform]; infer_instance)

end

end ObjectModel
