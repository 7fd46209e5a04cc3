/-! # Operations

What can be asked of a running object model. An operation names what is done and holds the plain texts, flags
and numbers that it needs; the values on which it works are its operands and stand beside it, in the order
given with each operation. The type of method bodies is left open.
-/

namespace ObjectModel

/-- From where a method may be called. -/
inductive Visibility
  | pub
  | priv
  | prot
  deriving DecidableEq, Repr

/-- The name of a visibility. -/
def Visibility.text : Visibility → String
  | .pub => "public"
  | .priv => "private"
  | .prot => "protected"

/-- The operations of the object model on method bodies of a type. -/
inductive Operation (β : Type)
  /-- Gives its operand back. -/
  | evaluate
  /-- Defines or reopens a class; operands are the scope and the superclass or nil. -/
  | defineClass (name : String)
  /-- Defines or reopens a module; the operand is the scope. -/
  | defineModule (name : String)
  /-- Makes a class without a name; the operand is the superclass. -/
  | newClass
  /-- Makes a module without a name. -/
  | newModule
  /-- Includes a module; operands are the class and the module. -/
  | includeModule
  /-- Prepends a module; operands are the class and the module. -/
  | prependModule
  /-- The order in which a class is searched for methods. -/
  | ancestors
  | superclass
  /-- The class of a value that is not a singleton class. -/
  | classOf
  /-- The class at which the search for a value's methods begins. -/
  | dispatchClass
  | singletonClassOf
  /-- Whether a value is one of a class; operands are the value and the class. -/
  | isA
  | classReport
  /-- The numbers of classes and of heap objects. -/
  | counts
  | allocate
  /-- Makes an object; operands are the class and the arguments. -/
  | instantiate
  /-- What the heap holds at a position. -/
  | objectReport (position : Nat)
  | defineMethod (name : String) (body : β)
  /-- Defines a method on one object; the operand is that object. -/
  | defineSingletonMethod (name : String) (body : β)
  | removeMethod (name : String)
  | undefMethod (name : String)
  | aliasMethod (name old : String)
  | setVisibility (name : String) (visibility : Visibility)
  | instanceMethods (inherited : Bool)
  | methodDefined (name : String)
  | findMethod (name : String)
  | respondTo (name : String) (includePrivate : Bool)
  /-- Calls a method from outside; operands are the receiver and the arguments. -/
  | invoke (name : String)
  /-- Calls a method whatever its visibility. -/
  | send (name : String)
  /-- Calls a method by its symbol, which is made if it does not exist. -/
  | sendSymbol (name : String)
  /-- Puts the builtin methods into their classes again. -/
  | installBuiltins
  | builtinNames
  | intern (name : String)
  | lookupSymbol (name : String)
  | symbolName (symbol : Nat)
  /-- Assigns a constant; operands are the scope and the value. -/
  | constantSet (name : String)
  | constantGet (name : String)
  | constantResolve (name : String) (ownOnly : Bool)
  | constantDefined (name : String) (inherited : Bool)
  | constantRemove (name : String)
  | ownConstants
  | constants (inherited : Bool)
  | privateConstant (name : String)
  | publicConstant (name : String)
  | deprecateConstant (name : String)
  | variableGet (name : String)
  /-- Sets an instance variable; operands are the object and the value. -/
  | variableSet (name : String)
  | variableNames
  | freeze
  | isFrozen
  | objectId
  | toText
  | inspect
  | describeReceiver
  | defaultInternal
  | defaultExternal
  | setDefaultInternal
  | setDefaultExternal
  | configValue (key : String)

/-- The operation with its method body changed. -/
def Operation.map {β γ : Type} (change : β → γ) : Operation β → Operation γ
  | .evaluate => .evaluate
  | .defineClass name => .defineClass name
  | .defineModule name => .defineModule name
  | .newClass => .newClass
  | .newModule => .newModule
  | .includeModule => .includeModule
  | .prependModule => .prependModule
  | .ancestors => .ancestors
  | .superclass => .superclass
  | .classOf => .classOf
  | .dispatchClass => .dispatchClass
  | .singletonClassOf => .singletonClassOf
  | .isA => .isA
  | .classReport => .classReport
  | .counts => .counts
  | .allocate => .allocate
  | .instantiate => .instantiate
  | .objectReport position => .objectReport position
  | .defineMethod name body => .defineMethod name (change body)
  | .defineSingletonMethod name body => .defineSingletonMethod name (change body)
  | .removeMethod name => .removeMethod name
  | .undefMethod name => .undefMethod name
  | .aliasMethod name old => .aliasMethod name old
  | .setVisibility name visibility => .setVisibility name visibility
  | .instanceMethods inherited => .instanceMethods inherited
  | .methodDefined name => .methodDefined name
  | .findMethod name => .findMethod name
  | .respondTo name includePrivate => .respondTo name includePrivate
  | .invoke name => .invoke name
  | .send name => .send name
  | .sendSymbol name => .sendSymbol name
  | .installBuiltins => .installBuiltins
  | .builtinNames => .builtinNames
  | .intern name => .intern name
  | .lookupSymbol name => .lookupSymbol name
  | .symbolName symbol => .symbolName symbol
  | .constantSet name => .constantSet name
  | .constantGet name => .constantGet name
  | .constantResolve name ownOnly => .constantResolve name ownOnly
  | .constantDefined name inherited => .constantDefined name inherited
  | .constantRemove name => .constantRemove name
  | .ownConstants => .ownConstants
  | .constants inherited => .constants inherited
  | .privateConstant name => .privateConstant name
  | .publicConstant name => .publicConstant name
  | .deprecateConstant name => .deprecateConstant name
  | .variableGet name => .variableGet name
  | .variableSet name => .variableSet name
  | .variableNames => .variableNames
  | .freeze => .freeze
  | .isFrozen => .isFrozen
  | .objectId => .objectId
  | .toText => .toText
  | .inspect => .inspect
  | .describeReceiver => .describeReceiver
  | .defaultInternal => .defaultInternal
  | .defaultExternal => .defaultExternal
  | .setDefaultInternal => .setDefaultInternal
  | .setDefaultExternal => .setDefaultExternal
  | .configValue key => .configValue key

end ObjectModel
