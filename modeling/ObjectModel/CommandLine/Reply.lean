import ObjectModel.CommandLine.Request
import ObjectModel.Config.Raw
import ObjectModel.State
import ObjectModel.Text.Json

/-! # Replies

What the command line gives back: an exit code, what is printed and what is complained about. Only a command that
succeeds prints; one that fails complains instead, and its code tells misuse from a failure of the work.
-/

namespace ObjectModel.CommandLine

/-- An exit code, and the texts for the standard output and the standard error. -/
structure Reply where
  code : Nat
  output : String
  errors : String
  deriving DecidableEq, Repr

/-- The result of a command, as lines and as JSON. -/
structure Printout where
  lines : List String
  json : Text.Json

/-- Why a command failed at its work. -/
inductive Failure
  | configuration (failure : Config.Failure)
  | halt (halt : Halt)
  deriving DecidableEq, Repr

/-- The text of a failure. -/
def Failure.message : Failure → String
  | .configuration failure => "ConfigError: " ++ failure.message
  | .halt (.fault fault) => fault.className ++ ": " ++ fault.message
  | .halt .exhausted => "calls are nested too deeply"

def endLines (lines : List String) : String := String.join (lines.map (· ++ "\n"))

/-- The text of a printout in one of its two forms. -/
def Printout.text (printout : Printout) (asJson : Bool) : String :=
  if asJson then endLines [printout.json.render] else endLines printout.lines

/-- A printout of names. -/
def Printout.ofNames (names : List String) : Printout :=
  { lines := names, json := .list (names.map .text) }

def Reply.success (output : String) : Reply := { code := 0, output, errors := "" }

/-- The reply of a command that failed. -/
def Reply.failure (failure : Failure) : Reply :=
  { code := 1, output := "", errors := endLines [failure.message] }

/-- The reply to misuse. -/
def Reply.misuse (misuse : Misuse) : Reply :=
  { code := 2, output := "", errors := endLines [misuse.message] }

end ObjectModel.CommandLine
