import ObjectModel.Graph.Core
import ObjectModel.Perform

/-! # The state at the start

A new object model has the core classes, the builtin methods in their tables, and under `Encoding` a constant
for every spelling of the name of an encoding.
-/

namespace ObjectModel

namespace State

/-- The core classes without methods. -/
def bare : State :=
  { graph := Graph.core
    names := Interner.empty.internAll (CoreClass.all.map CoreClass.name)
    heap := Heap.empty
    defaults := Encoding.Defaults.standard
    configuration := Config.Settings.empty
    options := Options.standard
    installations := 0
    scriptVariables := Table.empty
    warnings := [] }

/-- Puts a constant for an encoding under `Encoding`, unless there is one of that name. -/
def nameEncoding (state : State) (pair : EncodingId × String) : State :=
  let (symbol, names) := state.names.intern pair.2
  let id := CoreClass.encoding.id
  if (state.graph.record id).constants.contains symbol then { state with names }
  else { state with names, graph := state.graph.update id (.putConstant symbol (.encoding pair.1)) }

/-- The encodings with the constant names of all their names. -/
def encodingConstants : List (EncodingId × String) :=
  Encoding.all.flatMap fun id =>
    (((Encoding.get? id).map Encoding.names).getD []).flatMap fun name =>
      (Name.constantSpellings name).map fun spelling => (id, spelling)

def standard : State := encodingConstants.foldl nameEncoding bare.installBuiltins

/-- A new object model with the given choices, default encodings and configuration. -/
def initial (options : Options) (defaults : Encoding.Defaults)
    (configuration : Config.Settings) : State :=
  { standard with options, defaults, configuration }

end State

end ObjectModel
