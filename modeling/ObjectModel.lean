import ObjectModel.Main
import ObjectModel.Proofs.FirstOccurrence
import ObjectModel.Proofs.Graph.Stacked
import ObjectModel.Proofs.Graph.Ancestry
import ObjectModel.Proofs.Graph.Synthesis
import ObjectModel.Proofs.Graph.Growth
import ObjectModel.Proofs.Graph.Mirrored
import ObjectModel.Proofs.Graph.Core
import ObjectModel.Proofs.Graph.Building
import ObjectModel.Proofs.State.Handle
import ObjectModel.Proofs.State.Sound
import ObjectModel.Proofs.State.Change
import ObjectModel.Proofs.State.Preservation
import ObjectModel.Proofs.State.Initial
import ObjectModel.Proofs.State.Run
import ObjectModel.Proofs.State.Objects
import ObjectModel.Proofs.Graph.Lookup
import ObjectModel.Proofs.State.Classes
import ObjectModel.Proofs.State.Definitions
import ObjectModel.Proofs.State.Methods
import ObjectModel.Proofs.State.Calls
import ObjectModel.Proofs.Builtin.Arguments
import ObjectModel.Proofs.Builtin.Objects
import ObjectModel.Proofs.Builtin.Classes
import ObjectModel.Proofs.Builtin.Encodings
import ObjectModel.Proofs.Perform
import ObjectModel.Proofs.Interpreter
import ObjectModel.Proofs.Reachable
import ObjectModel.Proofs.Slots
import ObjectModel.Proofs.Graph.Search
import ObjectModel.Proofs.Choice
import ObjectModel.Proofs.SingletonMethods
import ObjectModel.Proofs.MissingHook
import ObjectModel.Proofs.ClassOf
import ObjectModel.Proofs.Graph.Listing
import ObjectModel.Proofs.State.MethodTables
import ObjectModel.Proofs.MethodViews
import ObjectModel.Proofs.Packing
import ObjectModel.Proofs.WellFormed
import ObjectModel.Proofs.State.Homes
import ObjectModel.Proofs.Receivers
import ObjectModel.Proofs.Agreement
import ObjectModel.Proofs.AtHome
import ObjectModel.Proofs.Graph.Enclosed
import ObjectModel.Proofs.Later
import ObjectModel.Proofs.Sealed
import ObjectModel.Proofs.Sparing.Rules
import ObjectModel.Proofs.Sparing.Actions
import ObjectModel.Proofs.Sparing.Builtins
import ObjectModel.Proofs.Sparing.Runs
import ObjectModel.Proofs.Frozen
import ObjectModel.Proofs.Text.Blank
import ObjectModel.Proofs.Config.Cutting
import ObjectModel.Proofs.Config.Render
import ObjectModel.Proofs.Config.Document
import ObjectModel.Proofs.Encoding.Assignments
import ObjectModel.Proofs.Encoding.Resolved
import ObjectModel.Proofs.DefaultEncodings
import ObjectModel.Proofs.Graph.SearchPath
import ObjectModel.Proofs.HiddenMethods
import ObjectModel.Proofs.Visibility
import ObjectModel.Proofs.Mixing
import ObjectModel.Proofs.Allocation
import ObjectModel.Proofs.Outcome
import ObjectModel.Proofs.Config.Listing
import ObjectModel.Proofs.Config.Population
import ObjectModel.Proofs.CommandLine.Request
import ObjectModel.Proofs.CommandLine.Configuration
import ObjectModel.Proofs.CommandLine.Encodings
import ObjectModel.Proofs.CommandLine.Answer
import ObjectModel.Proofs.CommandLine.Reply
import ObjectModel.Proofs.Naming
import ObjectModel.Proofs.State.Intact
import ObjectModel.Proofs.Renumber.Graph
import ObjectModel.Proofs.Renumber.State
import ObjectModel.Proofs.Renumber.Rules
import ObjectModel.Proofs.Renumber.Actions
import ObjectModel.Proofs.Renumber.Calls
import ObjectModel.Proofs.Renumber.Builtins
import ObjectModel.Proofs.Renumber.Runs
import ObjectModel.Proofs.Renumber.Installation
import ObjectModel.Proofs.Reinstallation
import ObjectModel.Proofs.Decimal.Whole
import ObjectModel.Proofs.Identity
import ObjectModel.Proofs.FailedDefinitions
import ObjectModel.Proofs.Confinement.Slot
import ObjectModel.Proofs.Confinement.Operations
import ObjectModel.Proofs.State.ConstantTables
import ObjectModel.Proofs.ConstantListing
import ObjectModel.Proofs.ConstantHistory.Requests
import ObjectModel.Proofs.ConstantHistory.Calls
import ObjectModel.Proofs.Comparison.Answers
import ObjectModel.Proofs.Comparison.Laws
import ObjectModel.Proofs.Config.Quotes
import ObjectModel.Proofs.Config.Division
import ObjectModel.Proofs.Interning
import ObjectModel.Proofs.Text.Spellings
