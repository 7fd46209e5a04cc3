/-! # Faults

The ways in which an operation of the object model is refused, each with the class of the exception that a
script would see and with its text.
-/

namespace ObjectModel

/-- Why an operation was refused. -/
inductive Fault
  /-- Neither a method nor a hook for missing ones was found. -/
  | noMethod (name receiver : String)
  /-- A private method was called from outside. -/
  | privateMethod (name receiver : String)
  /-- A value is not of the kind that is needed. -/
  | typeMismatch (reason : String)
  /-- A constant that is read strictly does not exist. -/
  | noConstant (scope name : String)
  /-- A private constant was read from outside. -/
  | privateConstant (scope name : String)
  /-- A constant whose flags are to change is not in the table of its scope. -/
  | constantNotDefined (scope name : String)
  /-- A text may not name a constant. -/
  | constantName (name : String)
  /-- A text may not name an instance variable. -/
  | variableName (name : String)
  /-- A method that is to be changed does not exist. -/
  | methodNotDefined (name owner : String)
  /-- The object that is to be changed is frozen. -/
  | frozen (receiver : String)
  /-- The arguments do not fit the operation. -/
  | argument (reason : String)
  /-- No encoding has the name. -/
  | unknownEncoding (name : String)
  deriving DecidableEq, Repr

namespace Fault

/-- The class of the exception that stands for a fault. -/
def className : Fault → String
  | .noMethod .. | .privateMethod .. => "NoMethodError"
  | .typeMismatch _ => "TypeError"
  | .noConstant .. | .privateConstant .. | .constantNotDefined .. | .constantName _
  | .variableName _ | .methodNotDefined .. => "NameError"
  | .frozen _ => "FrozenError"
  | .argument _ | .unknownEncoding _ => "ArgumentError"

/-- The text of a fault. -/
def message : Fault → String
  | .noMethod name receiver => "undefined method '" ++ name ++ "' for " ++ receiver
  | .privateMethod name receiver => "private method '" ++ name ++ "' called for " ++ receiver
  | .typeMismatch reason => reason
  | .noConstant scope name => "uninitialized constant " ++ scope ++ "::" ++ name
  | .privateConstant scope name => "private constant " ++ scope ++ "::" ++ name ++ " referenced"
  | .constantNotDefined scope name => "constant " ++ scope ++ "::" ++ name ++ " not defined"
  | .constantName name => "wrong constant name " ++ name
  | .variableName name => "'" ++ name ++ "' is not allowed as an instance variable name"
  | .methodNotDefined name owner => "method '" ++ name ++ "' not defined in " ++ owner
  | .frozen receiver => "can't modify frozen " ++ receiver
  | .argument reason => reason
  | .unknownEncoding name => "unknown encoding name - " ++ name

/-- A value of one class was given where another is needed and no conversion exists. -/
def noImplicitConversion (given needed : String) : Fault :=
  .typeMismatch ("no implicit conversion of " ++ given ++ " into " ++ needed)

/-- The conversion of a value gave something else than a text. -/
def conversionGives (converted given : String) : Fault :=
  .typeMismatch
    ("can't convert " ++ converted ++ " to String (" ++ converted ++ "#to_str gives " ++ given ++ ")")

end Fault

end ObjectModel
