import ObjectModel.Fault
import ObjectModel.Operation
import ObjectModel.Value

/-! # Scripts

The expressions in which method bodies are written. They build values, read variables, choose, fail on purpose
and run operations; there are no loops other than a method that is called again.
-/

namespace ObjectModel

/-- An expression. -/
inductive Expr
  /-- A value that needs no heap. -/
  | constant (value : Value)
  /-- The variable of a name; one that was never set is nil. -/
  | named (name : String)
  /-- A new string. -/
  | text (content : String)
  /-- A new string as written in a program, frozen where literals are. -/
  | literal (content : String)
  /-- The symbol of a name. -/
  | symbol (name : String)
  /-- A new array of the values of its items. -/
  | array (items : List Expr)
  /-- The class found by constants, one after the other, from the outermost scope. -/
  | classAt (path : List String)
  /-- The singleton class of a value. -/
  | metaclass (of : Expr)
  /-- The encoding of a name. -/
  | encoding (name : String)
  /-- The receiver of the call in progress, nil outside a body. -/
  | receiver
  /-- An argument of the call in progress, nil if there is none. -/
  | argument (position : Nat)
  /-- A new array of the arguments of the call in progress. -/
  | arguments
  /-- The value of the last of several expressions, all of which are evaluated. -/
  | sequence (items : List Expr)
  /-- One of two expressions, as a condition is truthy or not. -/
  | choose (condition yes no : Expr)
  /-- Fails. -/
  | raise (fault : Fault)
  /-- Runs an operation on the values of its operands, and keeps its value in a variable if one is named. -/
  | perform (operation : Operation Expr) (operands : List Expr) (target : Option String)

end ObjectModel
