import ObjectModel.Session

/-! # Scenarios

Short programs on a new object model, each of which shows one of its rules. Some of them are about a refusal, and
show the class of the exception that stands for it.
-/

namespace ObjectModel.CommandLine

/-- A program: expressions that are evaluated first, and the operation whose answer is shown. -/
structure Scenario where
  name : String
  about : String
  preparation : List Expr
  operation : Operation Expr
  operands : List Expr

namespace Scenario

def constant (name : String) : Expr := .classAt [name]

/-- An operation on the values of expressions. -/
def apply (operation : Operation Expr) (operands : List Expr) : Expr :=
  .perform operation operands none

/-- An operation whose value is kept in a variable. -/
def define (variableName : String) (operation : Operation Expr) (operands : List Expr) : Expr :=
  .perform operation operands (some variableName)

/-- A new class below `Object`, kept in a variable of its name. -/
def newClass (name : String) : Expr :=
  define name (.defineClass name) [constant "Object", .constant .nil]

def newInstance (variableName : String) (cls : Expr) : Expr := define variableName .instantiate [cls]

/-- An expression that is true when all of some expressions are. -/
def all : List Expr → Expr
  | [] => .constant (.bool true)
  | item :: rest => .choose item (all rest) (.constant (.bool false))

/-- The class of the class of the topmost class has a superclass. -/
def topmostMetaclass : Scenario :=
  { name := "basic_object_metaclass"
    about := "superclass of BasicObject's metaclass"
    preparation := []
    operation := .inspect
    operands := [apply (.send "superclass") [.metaclass (constant "BasicObject")]] }

/-- A metaclass is a class, and has a metaclass too. -/
def metaclassTower : Scenario :=
  { name := "metaclass_of_metaclass"
    about := "display name of a metaclass's metaclass"
    preparation := [newClass "Widget"]
    operation := .inspect
    operands := [.metaclass (.metaclass (.named "Widget"))] }

/-- A method of one object is no method of another object of its class. -/
def singletonIsolation : Scenario :=
  { name := "singleton_isolation"
    about := "a singleton method is invisible to siblings"
    preparation := [newInstance "first" (constant "Object"), newInstance "second" (constant "Object"),
      apply (.defineSingletonMethod "greet" (.text "hello")) [.named "first"]]
    operation := .inspect
    operands := [apply (.send "respond_to?") [.named "second", .symbol "greet"]] }

/-- Without its hook for missing methods a class refuses them again. -/
def removedHook : Scenario :=
  { name := "remove_method_missing"
    about := "calling an unknown method after removing method_missing"
    preparation := [newClass "Ghost",
      apply (.defineMethod "method_missing" (.argument 0)) [.named "Ghost"],
      newInstance "ghost" (.named "Ghost"),
      apply (.invoke "boo") [.named "ghost"],
      apply (.removeMethod "method_missing") [.named "Ghost"]]
    operation := .inspect
    operands := [apply (.invoke "boo") [.named "ghost"]] }

/-- A class can hide a method that it inherits. -/
def hiddenMethod : Scenario :=
  { name := "undef_method"
    about := "undefining an inherited method in a subclass"
    preparation := [newClass "Parent",
      apply (.defineMethod "greet" (.text "hi")) [.named "Parent"],
      define "Child" (.defineClass "Child") [constant "Object", .named "Parent"],
      apply (.undefMethod "greet") [.named "Child"],
      newInstance "child" (.named "Child")]
    operation := .inspect
    operands := [apply (.invoke "greet") [.named "child"]] }

/-- The topmost class has a constant for itself. -/
def topmostConstants : Scenario :=
  { name := "basic_object_constants"
    about := "BasicObject's own constants"
    preparation := []
    operation := .ownConstants
    operands := [constant "BasicObject"] }

/-- A default encoding can be assigned from any object that converts to a text. -/
def convertedEncoding : Scenario :=
  { name := "encoding_to_str"
    about := "default_internal assigned from an object answering to_str"
    preparation := [newClass "Named",
      apply (.defineMethod "to_str" (.text "Shift_JIS")) [.named "Named"],
      newInstance "named" (.named "Named")]
    operation := .toText
    operands := [apply .setDefaultInternal [.named "named"]] }

/-- Whoever reads a configuration value gets a string. -/
def configurationStrings : Scenario :=
  { name := "config_strings"
    about := "every configuration value is a String"
    preparation := []
    operation := .inspect
    operands := [all (Config.Build.standard.parameters.map fun parameter =>
      apply (.send "is_a?") [apply (.configValue parameter.1) [], constant "String"])] }

/-- The scenarios in the order in which they are listed. -/
def catalog : List Scenario :=
  [topmostMetaclass, metaclassTower, singletonIsolation, removedHook, hiddenMethod, topmostConstants,
    convertedEncoding, configurationStrings]

def find? (name : String) : Option Scenario := catalog.find? (·.name = name)

/-- The answer of a scenario as a text. -/
def answerText : Answer → String
  | .text content => content
  | .names names => ",".intercalate names
  | _ => ""

/-- Runs a scenario: the answer of its operation, or the class of the exception that stands for its
refusal. -/
def run (scenario : Scenario) : Action String := do
  discard (Expr.evaluateAll (runBody Session.depth) .nil [] scenario.preparation)
  tryCatch (return answerText (← Session.runOperation scenario.operation scenario.operands none))
    fun halt => match halt with
      | .fault fault => pure fault.className
      | .exhausted => throw .exhausted

end Scenario

end ObjectModel.CommandLine
