import ObjectModel.CommandLine.Scenario

/-! # Requests

What is asked for on the command line. The first word names a command, and the words after it are its arguments in
any order; misuse is noticed here, before anything is done.
-/

namespace ObjectModel.CommandLine

/-- A command with its arguments. -/
inductive Command
  /-- The configuration values of some keys, or all of them when no key is given. -/
  | configuration (source : Option String) (keys : List String)
  /-- The answers to the questions about the build. -/
  | flags (source : Option String)
  /-- The default encodings after assignments. -/
  | encodings (internal external : Option String)
  /-- The constants of a class, with those that it inherits or without. -/
  | constants (path : String) (inherited : Bool)
  | ancestors (path : String)
  /-- The methods to which instances of a class respond. -/
  | methods (path : String)
  | scenarioNames
  | demonstration (scenario : Scenario)

/-- A command, and whether its result is written as JSON. -/
structure Request where
  command : Command
  asJson : Bool

/-- How the command line was misused. -/
inductive Misuse
  | noCommand
  | unknownCommand (name : String)
  | unknownOption (word : String)
  | unexpectedArgument (word : String)
  /-- A command needs one argument of a kind, and no other. -/
  | missing (kind : String)
  | unknownScenario (name : String)
  deriving DecidableEq, Repr

/-- How the command line is used. -/
def usage : String :=
  "Usage: kiln <config|config-flags|encoding|constants|ancestors|methods|scenario> [verbose] [json] <args>"

/-- The text of a misuse. -/
def Misuse.message : Misuse → String
  | .noCommand => usage
  | .unknownCommand name => "Unknown command: " ++ name ++ "\n" ++ usage
  | .unknownOption word => "Unknown option: " ++ word
  | .unexpectedArgument word => "Unexpected argument: " ++ word
  | .missing kind => "Missing <" ++ kind ++ ">"
  | .unknownScenario name => "Unknown scenario: " ++ name

/-! ## Reading arguments -/

/-- What an assignment to a key assigns, if a word is one. -/
def assigned? (key word : String) : Option String :=
  let start := key.toList ++ ['=']
  if start.isPrefixOf word.toList then some (String.ofList (word.toList.drop start.length)) else none

/-- The first assignment to a key, and the words without it. -/
def takeAssignment (key : String) : List String → Option String × List String
  | [] => (none, [])
  | word :: rest =>
      match assigned? key word with
      | some content => (some content, rest)
      | none =>
          let (content, others) := takeAssignment key rest
          (content, word :: others)

/-- The only one of the words. -/
def single (kind : String) : List String → Except Misuse String
  | [word] => .ok word
  | _ => .error (.missing kind)

/-- The command of a name with its arguments. -/
def Command.read (name : String) (words : List String) : Except Misuse Command :=
  match name with
  | "config" =>
      let (source, keys) := takeAssignment "source" words
      .ok (.configuration source keys)
  | "config-flags" => .ok (.flags (takeAssignment "source" words).1)
  | "encoding" =>
      let (internal, words) := takeAssignment "internal" words
      let (external, words) := takeAssignment "external" words
      match words with
      | [] => .ok (.encodings internal external)
      | word :: _ => .error (.unexpectedArgument word)
  | "constants" => do
      let path ← single "class" (words.erase "all")
      return .constants path (words.contains "all")
  | "ancestors" => return .ancestors (← single "class" words)
  | "methods" => return .methods (← single "class" words)
  | "scenario" => do
      let name ← single "scenario" words
      if name = "list" then return .scenarioNames
      else match Scenario.find? name with
        | some scenario => return .demonstration scenario
        | none => throw (.unknownScenario name)
  | other => .error (.unknownCommand other)

/-- The request that words make. The words `json` and `verbose` may stand anywhere after the command; the
second asks for a log of the work, which is no part of the result. -/
def Request.read : List String → Except Misuse Request
  | [] => .error .noCommand
  | name :: words =>
      match words.find? (·.startsWith "--") with
      | some option => .error (.unknownOption option)
      | none => do
          let arguments := words.filter fun word => word ≠ "json" && word ≠ "verbose"
          let command ← Command.read name arguments
          return { command, asJson := words.contains "json" }

/-- The path of the file that a request reads, if it reads one. -/
def Request.source? (request : Request) : Option String :=
  match request.command with
  | .configuration source _ | .flags source => source
  | _ => none

end ObjectModel.CommandLine
