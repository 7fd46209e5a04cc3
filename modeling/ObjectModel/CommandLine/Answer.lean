import ObjectModel.CommandLine.Directory
import ObjectModel.CommandLine.Reply

/-! # Answering requests

What each command prints. A command reads a configuration, or asks a new object model; it prints nothing before all
its work is done.
-/

namespace ObjectModel.CommandLine

/-! ## Configurations -/

/-- The standard build, which is not installed. -/
def standardSource : Config.Source := { origin := .build Config.Build.standard, installed := false }

/-- The configuration source at a path, or the standard build. -/
def openSource (read : Reader) : Option String → Except Config.Failure Config.Source
  | none => .ok standardSource
  | some path =>
      match read path with
      | .ok content => .ok { origin := .text content, installed := false }
      | .error failure => .error (.unreadable path failure.message)

/-- The configuration of a source. -/
def loadConfiguration (read : Reader) (path : Option String) :
    Except Config.Failure Config.Settings := do
  Config.Settings.ofSource (← openSource read path) Options.standard.policy

/-- The values of some keys, or all values when no key is given. -/
def selectValues (settings : Config.Settings) (keys : List String) :
    Except Config.Failure (List (String × String)) :=
  if keys.isEmpty then .ok settings.entries
  else keys.mapM fun key => do return (key, ← settings.fetch key)

/-- Whether a pair may stand before another one in a sorted list. -/
def pairOrder (first second : String × String) : Bool :=
  first.1 < second.1 || (first.1 = second.1 && first.2 ≤ second.2)

def assignment (key value : String) : String := key ++ "=" ++ value

/-- Values of a configuration: the value alone when one key was asked for, else sorted assignments. -/
def printValues (keys : List String) (pairs : List (String × String)) : Printout :=
  { lines :=
      if keys.length = 1 then pairs.map (·.2)
      else (pairs.mergeSort pairOrder).map fun pair => assignment pair.1 pair.2
    json := .object (pairs.map fun pair => (pair.1, .text pair.2)) }

/-- The answer to a question about the build as a text. -/
def flagText : Option Config.Flag → String
  | some (.bool value) => if value then "true" else "false"
  | some (.text value) => value
  | none => "nil"

/-- The answer to a question about the build as JSON. -/
def flagJson : Option Config.Flag → Text.Json
  | some (.bool value) => .bool value
  | some (.text value) => .text value
  | none => .null

/-- The answers to all questions about the build. -/
def printFlags (settings : Config.Settings) : Printout :=
  let flags := Config.Settings.flagNames.map fun name => (name, settings.flag? name)
  { lines := flags.map fun flag => assignment flag.1 (flagText flag.2)
    json := .object (flags.map fun flag => (flag.1, flagJson flag.2)) }

/-! ## Object models -/

/-- The result of an action on a new object model with a configuration. -/
def onModel {α : Type} (configuration : Config.Settings) (action : Action α) : Except Failure α :=
  (action.run.run
    (State.initial Options.standard Encoding.Defaults.standard configuration)).1.mapError .halt

/-- Assigns a default encoding from a word, of which `nil` stands for no encoding. -/
def assignWord (operation : Operation Expr) : Option String → Action Unit
  | none => pure ()
  | some word =>
      discard (Session.runOperation operation
        [if word = "nil" then .constant .nil else .text word] none)

/-- The names of the external and the internal default encoding after assignments, of which that to the
external one comes first. -/
def assignEncodings (internal external : Option String) : Action (String × Option String) := do
  assignWord .setDefaultExternal external
  assignWord .setDefaultInternal internal
  ask fun state => (state.defaults.externalName, state.defaults.internalName?)

/-- The names of the default encodings. -/
def printEncodings (external : String) (internal : Option String) : Printout :=
  { lines := [assignment "default_external" external,
      assignment "default_internal" (internal.getD "nil")]
    json := .object [("default_external", .text external),
      ("default_internal", (internal.map Text.Json.text).getD .null)] }

/-- The class that is found by reading constants, one after the other, starting in a class. -/
def classNamed (scope : ClassId) : List String → Action ClassId
  | [] => pure scope
  | name :: rest => do
      match ← constantGet scope name with
      | .cls id => classNamed id rest
      | value =>
          let state ← get
          refuse (.typeMismatch (state.inspect value ++ " is not a class/module"))

/-- The class at a path of constants from the outermost scope. -/
def classAtPath (path : String) : Action ClassId :=
  classNamed CoreClass.object.id (Name.segments path)

/-- Names that are read off a new object model for the class at a path. -/
def namesOf (path : String) (read : State → ClassId → List String) : Except Failure Printout :=
  onModel Config.Settings.empty do
    let id ← classAtPath path
    ask fun state => .ofNames (read state id)

/-! ## Scenarios -/

/-- The scenarios and what they are about. -/
def printScenarios : Printout :=
  { lines := Scenario.catalog.map fun scenario => scenario.name ++ "\t" ++ scenario.about
    json := .list (Scenario.catalog.map fun scenario =>
      .object [("name", .text scenario.name), ("about", .text scenario.about)]) }

/-- The outcome of a scenario. -/
def printOutcome (name outcome : String) : Printout :=
  { lines := [outcome], json := .object [("scenario", .text name), ("outcome", .text outcome)] }

/-- Runs a scenario on an object model with the standard configuration. -/
def runScenario (scenario : Scenario) : Except Failure Printout := do
  let configuration ←
    (Config.Settings.ofSource standardSource Options.standard.policy).mapError .configuration
  return printOutcome scenario.name (← onModel configuration scenario.run)

/-! ## Commands -/

/-- What a command prints. -/
def Command.printout (read : Reader) : Command → Except Failure Printout
  | .configuration source keys => do
      let settings ← (loadConfiguration read source).mapError .configuration
      return printValues keys (← (selectValues settings keys).mapError .configuration)
  | .flags source => do
      return printFlags (← (loadConfiguration read source).mapError .configuration)
  | .encodings internal external => do
      let (external, internal) ← onModel Config.Settings.empty (assignEncodings internal external)
      return printEncodings external internal
  | .constants path inherited => namesOf path fun state id => state.constants id inherited
  | .ancestors path =>
      namesOf path fun state id => (state.graph.ancestors id).map state.graph.displayName
  | .methods path =>
      namesOf path fun state id =>
        ((state.graph.instanceMethods id true).map state.symbolText).mergeSort (· ≤ ·)
  | .scenarioNames => .ok printScenarios
  | .demonstration scenario => runScenario scenario

/-- The reply to a request. -/
def Request.reply (read : Reader) (request : Request) : Reply :=
  match request.command.printout read with
  | .ok printout => .success (printout.text request.asJson)
  | .error failure => .failure failure

/-- The reply to arguments. -/
def reply (read : Reader) (arguments : List String) : Reply :=
  match Request.read arguments with
  | .ok request => request.reply read
  | .error misuse => .misuse misuse

end ObjectModel.CommandLine
