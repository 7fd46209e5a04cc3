import ObjectModel.Proofs.CommandLine.Configuration
import ObjectModel.Proofs.CommandLine.Encodings
import ObjectModel.Proofs.CommandLine.Request
import ObjectModel.Proofs.State.Constants

/-! # What commands print

For each command a rule says what has to hold of the files and of a new object model, and what is then printed. Doing the
work of a command gives a printout just if the rule allows it: the configuration is read, all requested keys are there, all
assignments are made and the path leads to a class before anything is printed.
-/

namespace ObjectModel.CommandLine

/-! ## Paths -/

/-- A path of public constants leads from a class to another one. -/
inductive Reaches (state : State) : ClassId → List String → ClassId → Prop
  | here (scope : ClassId) : Reaches state scope [] scope
  | through {scope owner id last : ClassId} {name : String} {rest : List String} {entry : ConstantEntry}
      (hname : Name.isConstant name)
      (hresolve : state.resolveConstant? scope name false = some (owner, entry))
      (hpublic : ¬ entry.isPrivate) (hvalue : entry.value = .cls id) (hrest : Reaches state id rest last) :
      Reaches state scope (name :: rest) last

theorem Reaches.unique {state : State} {scope first second : ClassId} {path : List String}
    (hfirst : Reaches state scope path first) (hsecond : Reaches state scope path second) :
    first = second := by
  induction hfirst with
  | here => cases hsecond; rfl
  | through _ hresolve _ hvalue _ ih =>
      cases hsecond with
      | through _ hother _ hsame hrest =>
          obtain ⟨-, rfl⟩ := Prod.mk.inj (Option.some.inj (hresolve.symm.trans hother))
          obtain rfl := Value.cls.inj (hvalue.symm.trans hsame)
          exact ih hrest

/-- Warnings change nothing about where a path leads. -/
theorem Reaches.withWarnings {state : State} {scope id : ClassId} {path : List String}
    (hreaches : Reaches state scope path id) (warnings : List Warning) :
    Reaches { state with warnings } scope path id := by
  induction hreaches with
  | here scope => exact .here scope
  | through hname hresolve hpublic hvalue _ ih => exact .through hname hresolve hpublic hvalue ih

theorem Reaches.of_cons {state : State} {scope last : ClassId} {name : String} {rest : List String}
    (hreaches : Reaches state scope (name :: rest) last) :
    ∃ owner entry id, Name.isConstant name ∧
      state.resolveConstant? scope name false = some (owner, entry) ∧ ¬ entry.isPrivate ∧
        entry.value = .cls id ∧ Reaches state id rest last := by
  cases hreaches with
  | through hname hresolve hpublic hvalue hrest =>
      exact ⟨_, _, _, hname, hresolve, hpublic, hvalue, hrest⟩

/-- The class to which a path leads is found, or the search for it is refused. -/
theorem run_classNamed (state : State) (scope : ClassId) (path : List String) :
    (∃ id warnings, (classNamed scope path).run.run state = (.ok id, { state with warnings }) ∧
      Reaches state scope path id) ∨
    ∃ fault last, (classNamed scope path).run.run state = (.error (.fault fault), last) ∧
      ∀ id, ¬ Reaches state scope path id := by
  induction path generalizing state scope with
  | nil => exact .inl ⟨scope, state.warnings, rfl, .here scope⟩
  | cons name rest ih =>
      rw [classNamed, State.run_bind]
      rcases state.run_constantGet scope name with
        ⟨owner, entry, warnings, hrun, hname, hresolve, hpublic⟩ | ⟨fault, hrun, hprivate⟩
      · rw [hrun]
        dsimp only
        have hentry : ∀ {other found}, state.resolveConstant? scope name false = some (other, found) →
            found = entry := fun hother => (Prod.mk.inj (Option.some.inj (hother.symm.trans hresolve))).2
        cases hvalue : entry.value with
        | cls id =>
            rcases ih { state with warnings } id with
              ⟨last, others, hrest, hreaches⟩ | ⟨fault, last, hrest, hnone⟩
            · exact .inl ⟨last, others, hrest,
                .through hname hresolve hpublic hvalue (hreaches.withWarnings state.warnings)⟩
            · refine .inr ⟨fault, last, hrest, ?_⟩
              intro last hreaches
              obtain ⟨_, found, next, -, hfound, -, hclass, hlater⟩ := hreaches.of_cons
              rw [hentry hfound, hvalue] at hclass
              obtain rfl := Value.cls.inj hclass
              exact hnone last (hlater.withWarnings warnings)
        -- the path does not go on from a value that is no class
        | _ =>
            refine .inr ⟨_, _, rfl, ?_⟩
            intro last hreaches
            obtain ⟨_, found, next, -, hfound, -, hclass, -⟩ := hreaches.of_cons
            rw [hentry hfound, hvalue] at hclass
            cases hclass
      · rw [hrun]
        refine .inr ⟨fault, state, rfl, ?_⟩
        intro last hreaches
        obtain ⟨owner, entry, _, hname, hresolve, hpublic, -⟩ := hreaches.of_cons
        exact hpublic (hprivate owner entry hname hresolve)

/-! ## Commands -/

/-- The model on which a command works that needs no configuration. -/
def freshModel : State :=
  State.initial Options.standard Encoding.Defaults.standard Config.Settings.empty

/-- The model on which scenarios run. -/
def demonstrationModel : State :=
  State.initial Options.standard Encoding.Defaults.standard
    (settingsOf Config.Build.standard.parameters)

/-- When a command prints something, and what. -/
inductive Command.Prints (read : Reader) : Command → Printout → Prop
  | configuration {source : Option String} {keys : List String} {pairs selected : List (String × String)}
      (hholds : Holds read source pairs) (hselects : Selects pairs keys selected) :
      Prints read (.configuration source keys) (printValues keys selected)
  | flags {source : Option String} {pairs : List (String × String)} (hholds : Holds read source pairs) :
      Prints read (.flags source) (printFlags (settingsOf pairs))
  | encodings {internal external second : Option String} {first : String}
      (hexternal : NamesExternal external first) (hinternal : NamesInternal internal second) :
      Prints read (.encodings internal external) (printEncodings first second)
  | constants {path : String} {inherited : Bool} {id : ClassId}
      (hpath : Reaches freshModel CoreClass.object.id (Name.segments path) id) :
      Prints read (.constants path inherited) (.ofNames (freshModel.constants id inherited))
  | ancestors {path : String} {id : ClassId}
      (hpath : Reaches freshModel CoreClass.object.id (Name.segments path) id) :
      Prints read (.ancestors path)
        (.ofNames ((freshModel.graph.ancestors id).map freshModel.graph.displayName))
  | methods {path : String} {id : ClassId}
      (hpath : Reaches freshModel CoreClass.object.id (Name.segments path) id) :
      Prints read (.methods path) (.ofNames
        (((freshModel.graph.instanceMethods id true).map freshModel.symbolText).mergeSort (· ≤ ·)))
  | scenarioNames : Prints read .scenarioNames printScenarios
  | demonstration {scenario : Scenario} {outcome : String}
      (houtcome : demonstrationModel.result scenario.run = .ok outcome) :
      Prints read (.demonstration scenario) (printOutcome scenario.name outcome)

/-- The rules allow a command to print one thing at most. -/
theorem Command.Prints.unique {read : Reader} {command : Command} {first second : Printout}
    (hfirst : command.Prints read first) (hsecond : command.Prints read second) : first = second := by
  cases hfirst with
  | configuration hholds hselects =>
      cases hsecond with
      | configuration hother hothers =>
          obtain rfl := hholds.unique hother
          rw [hselects.unique hholds hothers]
  | flags hholds =>
      cases hsecond with
      | flags hother => rw [hholds.unique hother]
  | encodings hexternal hinternal =>
      cases hsecond with
      | encodings hfirst hsecond => rw [hexternal.unique hfirst, hinternal.unique hsecond]
  | constants hpath =>
      cases hsecond with
      | constants hother => rw [hpath.unique hother]
  | ancestors hpath =>
      cases hsecond with
      | ancestors hother => rw [hpath.unique hother]
  | methods hpath =>
      cases hsecond with
      | methods hother => rw [hpath.unique hother]
  | scenarioNames =>
      cases hsecond
      rfl
  | demonstration houtcome =>
      cases hsecond with
      | demonstration hother => rw [Except.ok.inj (houtcome.symm.trans hother)]

/-- Names are printed if the path leads to a class. -/
theorem namesOf_outcome {list : State → ClassId → List String}
    (hlist : ∀ state warnings, list { state with warnings } = list state) (path : String) :
    (∃ id, namesOf path list = .ok (.ofNames (list freshModel id)) ∧
      Reaches freshModel CoreClass.object.id (Name.segments path) id) ∨
    ∃ fault, namesOf path list = .error (.halt (.fault fault)) ∧
      ∀ id, ¬ Reaches freshModel CoreClass.object.id (Name.segments path) id := by
  rw [namesOf, onModel, State.run_bind, classAtPath]
  rcases run_classNamed freshModel CoreClass.object.id (Name.segments path) with
    ⟨id, warnings, hrun, hreaches⟩ | ⟨fault, last, hrun, hnone⟩
  · left
    refine ⟨id, ?_, hreaches⟩
    rw [← freshModel, hrun, ← hlist freshModel warnings]
    rfl
  · right
    refine ⟨fault, ?_, hnone⟩
    rw [← freshModel, hrun]
    rfl

/-- Every scenario has an outcome: a refusal is part of what it shows. -/
theorem isOk_run_catalog : ∀ scenario ∈ Scenario.catalog,
    (demonstrationModel.result scenario.run).isOk := by
  decide +kernel

/-- What becomes of a command: it prints what the rules allow it to print, or it is stopped by a failure that has
a message of its own, and then the rules allow it to print nothing. -/
inductive Command.Ends (read : Reader) (command : Command) : Except Failure Printout → Prop
  | printed {printout : Printout} (hprints : command.Prints read printout) : Ends read command (.ok printout)
  | failed {failure : Failure} (hfailure : failure ≠ .halt .exhausted)
      (hnone : ∀ printout, ¬ command.Prints read printout) : Ends read command (.error failure)

theorem ends_configuration (read : Reader) (source : Option String) (keys : List String) :
    Command.Ends read (.configuration source keys) (Command.printout read (.configuration source keys)) := by
  rw [Command.printout]
  cases hload : loadConfiguration read source with
  | error failure =>
      refine .failed nofun ?_
      intro printout hprints
      cases hprints with
      | configuration hholds _ =>
          cases hload.symm.trans (loadConfiguration_eq_ok_iff.mpr ⟨_, hholds, rfl⟩)
  | ok settings =>
      obtain ⟨pairs, hholds, rfl⟩ := loadConfiguration_eq_ok_iff.mp hload
      change Command.Ends _ _ (((selectValues (settingsOf pairs) keys).mapError .configuration).bind _)
      cases hselect : selectValues (settingsOf pairs) keys with
      | error failure =>
          refine .failed nofun ?_
          intro printout hprints
          cases hprints with
          | configuration hother hselects =>
              obtain rfl := hholds.unique hother
              cases hselect.symm.trans ((selectValues_eq_ok_iff hholds.nodup).mpr hselects)
      | ok selected =>
          exact .printed (.configuration hholds ((selectValues_eq_ok_iff hholds.nodup).mp hselect))

theorem ends_flags (read : Reader) (source : Option String) :
    Command.Ends read (.flags source) (Command.printout read (.flags source)) := by
  rw [Command.printout]
  cases hload : loadConfiguration read source with
  | error failure =>
      refine .failed nofun ?_
      intro printout hprints
      cases hprints with
      | flags hholds => cases hload.symm.trans (loadConfiguration_eq_ok_iff.mpr ⟨_, hholds, rfl⟩)
  | ok settings =>
      obtain ⟨pairs, hholds, rfl⟩ := loadConfiguration_eq_ok_iff.mp hload
      exact .printed (.flags hholds)

theorem ends_encodings (read : Reader) (internal external : Option String) :
    Command.Ends read (.encodings internal external)
      (Command.printout read (.encodings internal external)) := by
  rw [Command.printout, onModel]
  rcases @result_assignEncodings freshModel rfl rfl internal external with
    ⟨names, hresult, hexternal, hinternal⟩ | ⟨fault, hresult, hnone⟩
  · rw [← State.result, ← freshModel, hresult]
    exact .printed (.encodings hexternal hinternal)
  · rw [← State.result, ← freshModel, hresult]
    refine .failed (by simp) ?_
    intro printout hprints
    cases hprints with
    | encodings hexternal hinternal => exact hnone ⟨_, _, hexternal, hinternal⟩

/-- A command of names prints them just if its path leads to a class. -/
theorem ends_namesOf {read : Reader} {command : Command} {path : String}
    {list : State → ClassId → List String}
    (hlist : ∀ state warnings, list { state with warnings } = list state)
    (hprints : ∀ printout, command.Prints read printout ↔ ∃ id,
      Reaches freshModel CoreClass.object.id (Name.segments path) id ∧
        printout = .ofNames (list freshModel id)) :
    command.Ends read (namesOf path list) := by
  rcases namesOf_outcome hlist path with ⟨id, hnames, hreaches⟩ | ⟨fault, hnames, hnone⟩
  · rw [hnames]
    exact .printed ((hprints _).mpr ⟨id, hreaches, rfl⟩)
  · rw [hnames]
    refine .failed nofun ?_
    intro printout hprinted
    obtain ⟨id, hreaches, -⟩ := (hprints printout).mp hprinted
    exact hnone id hreaches

theorem ends_demonstration (read : Reader) {scenario : Scenario}
    (hscenario : scenario ∈ Scenario.catalog) :
    Command.Ends read (.demonstration scenario) (Command.printout read (.demonstration scenario)) := by
  have hok := isOk_run_catalog scenario hscenario
  rw [Command.printout, runScenario, ofSource_standard]
  change Command.Ends _ _ (((demonstrationModel.result scenario.run).mapError .halt).bind _)
  cases hresult : demonstrationModel.result scenario.run with
  | error halt =>
      rw [hresult] at hok
      cases hok
  | ok outcome => exact .printed (.demonstration hresult)

/-- What becomes of a command that arguments can make. -/
theorem Command.Written.ends {name : String} {words : List String} {command : Command}
    (hwritten : command.Written name words) (read : Reader) :
    command.Ends read (command.printout read) := by
  cases hwritten with
  | configuration => exact ends_configuration read _ _
  | flags => exact ends_flags read _
  | encodings => exact ends_encodings read _ _
  | ownConstants | allConstants =>
      apply ends_namesOf (fun _ _ => rfl)
      intro printout
      constructor
      · intro hprints
        cases hprints with
        | constants hpath => exact ⟨_, hpath, rfl⟩
      · rintro ⟨id, hpath, rfl⟩
        exact .constants hpath
  | ancestors path =>
      apply ends_namesOf (fun _ _ => rfl)
      intro printout
      constructor
      · intro hprints
        cases hprints with
        | ancestors hpath => exact ⟨_, hpath, rfl⟩
      · rintro ⟨id, hpath, rfl⟩
        exact .ancestors hpath
  | methods path =>
      apply ends_namesOf (fun _ _ => rfl)
      intro printout
      constructor
      · intro hprints
        cases hprints with
        | methods hpath => exact ⟨_, hpath, rfl⟩
      · rintro ⟨id, hpath, rfl⟩
        exact .methods hpath
  | scenarioNames => exact .printed .scenarioNames
  | demonstration hscenario => exact ends_demonstration read hscenario

end ObjectModel.CommandLine
