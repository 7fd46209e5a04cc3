import ObjectModel.Encoding.Catalog
import ObjectModel.Fault

/-! # Default encodings

There is always an external default encoding and sometimes an internal one. An assignment first finds out which
encoding is meant, and only then changes the default that it is about and is logged.
-/

namespace ObjectModel.Encoding

/-- An assignment that came to its end, with the encoding that the default got. -/
inductive Assignment
  | internal (encoding : Option EncodingId)
  | external (encoding : EncodingId)
  deriving DecidableEq, Repr

/-- The default encodings. -/
structure Defaults where
  external : EncodingId
  internal : Option EncodingId
  /-- The assignments that were logged, the latest last. -/
  log : List Assignment := []
  deriving DecidableEq, Repr

/-- What the conversion of a value to a text gave. -/
inductive Converted
  | text (content : String)
  /-- Something of the named class that is no text. -/
  | other (className : String)
  deriving DecidableEq, Repr

/-- What is assigned to a default. -/
inductive Argument
  | nil
  | encoding (id : EncodingId)
  | name (name : String)
  /-- A value of the named class that converts to a text, with the outcome of that conversion. -/
  | convertible (className : String) (outcome : Except Fault Converted)
  /-- A value of the named class that does not convert to a text. -/
  | inconvertible (className : String)

/-- The encoding with a name that has to exist. -/
def named (name : String) : Except Fault EncodingId :=
  match find? name with
  | some encoding => pure encoding
  | none => throw (.unknownEncoding name)

/-- The encoding that an argument stands for; nothing for the absent value. -/
def Argument.resolve : Argument → Except Fault (Option EncodingId)
  | .nil => pure none
  | .encoding id =>
      if id.index < catalog.length then pure (some id)
      else throw (.typeMismatch ("encoding " ++ toString id.index ++ " is not registered"))
  | .name content => (named content).map some
  | .convertible className outcome => do
      match ← outcome with
      | .text content => (named content).map some
      | .other given => throw (.conversionGives className given)
  | .inconvertible className => throw (.noImplicitConversion className "String")

namespace Defaults

def standard : Defaults := { external := ⟨1⟩, internal := none }

/-- The defaults with a chosen external encoding. -/
def ofName (name : String) : Except Fault Defaults :=
  (named name).map fun encoding => { external := encoding, internal := none }

/-- Changes the default that an assignment is about, and logs the assignment. -/
def assign (defaults : Defaults) (assignment : Assignment) : Defaults :=
  let log := defaults.log ++ [assignment]
  match assignment with
  | .internal encoding => { defaults with internal := encoding, log }
  | .external encoding => { defaults with external := encoding, log }

/-- The defaults after an assignment to the internal one. -/
def assignInternal (defaults : Defaults) (argument : Argument) : Except Fault Defaults :=
  argument.resolve.map fun encoding => defaults.assign (.internal encoding)

/-- The defaults after an assignment to the external one, which cannot be absent. -/
def assignExternal (defaults : Defaults) (argument : Argument) : Except Fault Defaults := do
  match ← argument.resolve with
  | some encoding => pure (defaults.assign (.external encoding))
  | none => throw (.argument "default external can not be nil")

def internalName? (defaults : Defaults) : Option String := defaults.internal.map nameOf

def externalName (defaults : Defaults) : String := nameOf defaults.external

end Defaults

end ObjectModel.Encoding
