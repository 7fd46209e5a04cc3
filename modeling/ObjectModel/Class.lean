import ObjectModel.Method
import ObjectModel.Table

/-! # Class records

What is known of a class, a module or a singleton class. The superclass and what a singleton class is attached
to are fixed when the record is made; the rest can change later.
-/

namespace ObjectModel

/-- The three kinds of class record. -/
inductive ClassKind
  | cls
  | mixin
  | singleton
  deriving DecidableEq, Repr

/-- An entry of a constant table. -/
structure ConstantEntry where
  value : Value
  isPrivate : Bool
  isDeprecated : Bool
  deriving DecidableEq, Repr

/-- A class, module or singleton class. -/
structure ClassRecord where
  kind : ClassKind
  superclass : Option ClassId
  /-- The value whose own methods a singleton class holds. -/
  attached : Option Value
  /-- Whether the class belongs to those that exist from the start. -/
  isCore : Bool
  name : Option String
  /-- The scope in which the class got its name. -/
  owner : Option ClassId
  /-- The singleton class of the class, once it was needed. -/
  metaclass : Option ClassId
  methods : Table Symbol MethodEntry
  constants : Table Symbol ConstantEntry
  /-- The included modules, the latest first. -/
  includes : List ClassId
  /-- The prepended modules, the latest first. -/
  prepends : List ClassId
  ownVariables : Table Symbol Value
  isFrozen : Bool

namespace ClassRecord

/-- A record as it is when it is made. -/
def fresh (kind : ClassKind) (superclass : Option ClassId) (attached : Option Value)
    (isCore : Bool) : ClassRecord :=
  { kind, superclass, attached, isCore, name := none, owner := none, metaclass := none,
    methods := Table.empty, constants := Table.empty, includes := [], prepends := [],
    ownVariables := Table.empty, isFrozen := false }

def isModule (record : ClassRecord) : Bool := record.kind = .mixin

def isSingleton (record : ClassRecord) : Bool := record.kind = .singleton

/-- Puts a method into the table, in place of one of the same name. -/
def putMethod (name : Symbol) (entry : MethodEntry) (record : ClassRecord) : ClassRecord :=
  { record with methods := record.methods.insert name entry }

/-- Takes a method out of the table. -/
def eraseMethod (name : Symbol) (record : ClassRecord) : ClassRecord :=
  { record with methods := record.methods.erase name }

/-- Assigns a constant: a new one is public and in use, an old one keeps its place and its flags. -/
def putConstant (name : Symbol) (value : Value) (record : ClassRecord) : ClassRecord :=
  let entry := match record.constants.find? name with
    | some old => { old with value }
    | none => { value, isPrivate := false, isDeprecated := false }
  { record with constants := record.constants.insert name entry }

/-- Changes the flags of a constant. -/
def flagConstant (name : Symbol) (change : ConstantEntry → ConstantEntry) (record : ClassRecord) :
    ClassRecord :=
  { record with constants := record.constants.adjust name change }

/-- Takes a constant out of the table. -/
def eraseConstant (name : Symbol) (record : ClassRecord) : ClassRecord :=
  { record with constants := record.constants.erase name }

/-- The names of the public constants of the table, in order. -/
def publicConstants (record : ClassRecord) : List Symbol :=
  (record.constants.entries.filter fun pair => !pair.2.isPrivate).map Prod.fst

/-- Sets an instance variable of the class itself. -/
def putVariable (name : Symbol) (value : Value) (record : ClassRecord) : ClassRecord :=
  { record with ownVariables := record.ownVariables.insert name value }

/-- Puts a module before the others that are included. -/
def addInclude (mixin : ClassId) (record : ClassRecord) : ClassRecord :=
  { record with includes := mixin :: record.includes }

/-- Puts a module before the others that are prepended. -/
def addPrepend (mixin : ClassId) (record : ClassRecord) : ClassRecord :=
  { record with prepends := mixin :: record.prepends }

end ClassRecord

end ObjectModel
