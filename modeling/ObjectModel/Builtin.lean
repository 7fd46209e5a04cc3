import ObjectModel.Operation
import ObjectModel.Value

/-! # Builtin methods

The classes that exist from the start and the methods that they are given. A builtin is known by the class for
which it is meant and by its routine; what the routines do is said elsewhere.
-/

namespace ObjectModel

/-- The classes and modules that exist from the start. -/
inductive CoreClass
  | basicObject | object | moduleClass | classClass | kernel | comparable | nilClass | trueClass
  | falseClass | integer | float | string | symbol | array | encoding
  deriving DecidableEq, Repr

namespace CoreClass

/-- The core classes in the order of their positions. -/
def all : List CoreClass :=
  [basicObject, object, moduleClass, classClass, kernel, comparable, nilClass, trueClass, falseClass,
    integer, float, string, symbol, array, encoding]

/-- The position of a core class in the class graph. -/
def id : CoreClass → ClassId
  | basicObject => ⟨0⟩
  | object => ⟨1⟩
  | moduleClass => ⟨2⟩
  | classClass => ⟨3⟩
  | kernel => ⟨4⟩
  | comparable => ⟨5⟩
  | nilClass => ⟨6⟩
  | trueClass => ⟨7⟩
  | falseClass => ⟨8⟩
  | integer => ⟨9⟩
  | float => ⟨10⟩
  | string => ⟨11⟩
  | symbol => ⟨12⟩
  | array => ⟨13⟩
  | encoding => ⟨14⟩

/-- The name of a core class. -/
def name : CoreClass → String
  | basicObject => "BasicObject"
  | object => "Object"
  | moduleClass => "Module"
  | classClass => "Class"
  | kernel => "Kernel"
  | comparable => "Comparable"
  | nilClass => "NilClass"
  | trueClass => "TrueClass"
  | falseClass => "FalseClass"
  | integer => "Integer"
  | float => "Float"
  | string => "String"
  | symbol => "Symbol"
  | array => "Array"
  | encoding => "Encoding"

end CoreClass

/-- What every object can do. -/
inductive BasicRoutine
  | construct | identical | negate | notEqual | identity | send | missing
  deriving DecidableEq, Repr

/-- What every object but the barest can do. -/
inductive KernelRoutine
  | classOf | singletonClass | objectId | send | publicSend | respondTo | variableGet | variableSet
  | variableNames | isFrozen | freeze | isA | instanceOf | inspect | toText | isNil
  deriving DecidableEq, Repr

/-- What classes and modules can do. -/
inductive ModuleRoutine
  | nameText | display | constants | constantGet | constantSet | constantDefined | ancestors
  | includeModules | includes | prependModules | privateConstant | publicConstant
  | deprecateConstant | attributes (reader writer : Bool) | instanceMethods | methodDefined
  | removeMethod | undefMethod | aliasMethod | setVisibility (visibility : Visibility) | matches
  deriving DecidableEq, Repr

/-- What classes can do. -/
inductive ClassRoutine
  | make | allocate | superclass
  deriving DecidableEq, Repr

/-- What nil and the truth values can do. -/
inductive SingularRoutine
  | toText | inspect | both | either | isNil | toArray
  deriving DecidableEq, Repr

/-- What strings can do. -/
inductive StringRoutine
  | toText | equal | compare | concat | length | toSymbol
  deriving DecidableEq, Repr

/-- What symbols can do. -/
inductive SymbolRoutine
  | toText | itself | length
  deriving DecidableEq, Repr

/-- What numbers can do. -/
inductive NumberRoutine
  | integerText | floatText | equal | compare | add | subtract | multiply
  deriving DecidableEq, Repr

/-- What arrays can do. -/
inductive ArrayRoutine
  | length | index | first | includes | itself
  deriving DecidableEq, Repr

/-- What comparable objects can do. -/
inductive ComparableRoutine
  | equal | less | lessOrEqual | greater | greaterOrEqual | between | clamp
  deriving DecidableEq, Repr

/-- What encodings, and their class, can do. -/
inductive EncodingRoutine
  | nameText | inspect | names | asciiCompatible | isDummy | validCode | defaultInternal
  | setDefaultInternal | defaultExternal | setDefaultExternal | find | list | nameList
  deriving DecidableEq, Repr

/-- What a builtin method does. -/
inductive Routine
  | basic (routine : BasicRoutine)
  | kernel (routine : KernelRoutine)
  | moduleRoutine (routine : ModuleRoutine)
  | classRoutine (routine : ClassRoutine)
  | singular (routine : SingularRoutine)
  | string (routine : StringRoutine)
  | symbol (routine : SymbolRoutine)
  | number (routine : NumberRoutine)
  | array (routine : ArrayRoutine)
  | comparable (routine : ComparableRoutine)
  | encoding (routine : EncodingRoutine)
  deriving DecidableEq, Repr

/-- A builtin method: the core class for which it is meant, whether it is meant for that class itself
rather than for its instances, and its routine. -/
structure Builtin where
  owner : CoreClass
  onMetaclass : Bool
  routine : Routine
  deriving DecidableEq, Repr

/-- A builtin method with the name and visibility under which it is put into a class. -/
structure Registration where
  builtin : Builtin
  name : String
  visibility : Visibility
  deriving DecidableEq, Repr

namespace Registration

/-- A public method for the instances of a core class. -/
def onInstances (owner : CoreClass) (name : String) (routine : Routine) : Registration :=
  { builtin := { owner, onMetaclass := false, routine }, name, visibility := .pub }

/-- A private method for the instances of a core class. -/
def hidden (owner : CoreClass) (name : String) (routine : Routine) : Registration :=
  { builtin := { owner, onMetaclass := false, routine }, name, visibility := .priv }

/-- A public method of a core class itself. -/
def onClass (owner : CoreClass) (name : String) (routine : Routine) : Registration :=
  { builtin := { owner, onMetaclass := true, routine }, name, visibility := .pub }

end Registration

namespace Builtin

open Registration

def forBasicObject : List Registration :=
  [hidden .basicObject "initialize" (.basic .construct),
    onInstances .basicObject "==" (.basic .identical),
    onInstances .basicObject "equal?" (.basic .identical),
    onInstances .basicObject "!" (.basic .negate),
    onInstances .basicObject "!=" (.basic .notEqual),
    onInstances .basicObject "__id__" (.basic .identity),
    onInstances .basicObject "__send__" (.basic .send),
    hidden .basicObject "method_missing" (.basic .missing)]

def forKernel : List Registration :=
  [("class", .classOf), ("singleton_class", .singletonClass), ("hash", .objectId),
    ("object_id", .objectId), ("send", .send), ("public_send", .publicSend),
    ("respond_to?", .respondTo), ("instance_variable_get", .variableGet),
    ("instance_variable_set", .variableSet), ("instance_variables", .variableNames),
    ("frozen?", .isFrozen), ("freeze", .freeze), ("is_a?", .isA), ("kind_of?", .isA),
    ("instance_of?", .instanceOf), ("inspect", .inspect), ("to_s", .toText),
    ("nil?", .isNil)].map fun (name, routine) => onInstances .kernel name (.kernel routine)

def forModule : List Registration :=
  [("name", .nameText), ("to_s", .display), ("inspect", .display), ("constants", .constants),
    ("const_get", .constantGet), ("const_set", .constantSet), ("const_defined?", .constantDefined),
    ("ancestors", .ancestors), ("include", .includeModules), ("include?", .includes),
    ("prepend", .prependModules), ("private_constant", .privateConstant),
    ("public_constant", .publicConstant), ("deprecate_constant", .deprecateConstant),
    ("attr_reader", .attributes true false), ("attr_writer", .attributes false true),
    ("attr_accessor", .attributes true true), ("instance_methods", .instanceMethods),
    ("method_defined?", .methodDefined), ("remove_method", .removeMethod),
    ("undef_method", .undefMethod), ("alias_method", .aliasMethod),
    ("private", .setVisibility .priv), ("public", .setVisibility .pub),
    ("===", .matches)].map fun (name, routine) =>
      onInstances .moduleClass name (.moduleRoutine routine)

def forClass : List Registration :=
  [("new", .make), ("allocate", .allocate), ("superclass", .superclass)].map
    fun (name, routine) => onInstances .classClass name (.classRoutine routine)

def forSingulars : List Registration :=
  ([CoreClass.nilClass, .trueClass, .falseClass].flatMap fun owner =>
    [("to_s", .toText), ("inspect", .inspect), ("&", .both), ("|", .either)].map
      fun (name, routine) => onInstances owner name (.singular routine)) ++
  [onInstances .nilClass "nil?" (.singular .isNil),
    onInstances .nilClass "to_a" (.singular .toArray)]

def forString : List Registration :=
  [("to_s", .toText), ("to_str", .toText), ("==", .equal), ("<=>", .compare), ("+", .concat),
    ("length", .length), ("size", .length), ("to_sym", .toSymbol)].map
    fun (name, routine) => onInstances .string name (.string routine)

def forSymbol : List Registration :=
  [("to_s", .toText), ("name", .toText), ("to_sym", .itself), ("length", .length)].map
    fun (name, routine) => onInstances .symbol name (.symbol routine)

def forNumbers : List Registration :=
  ([("to_s", .integerText), ("inspect", .integerText), ("==", .equal), ("<=>", .compare),
    ("+", .add), ("-", .subtract), ("*", .multiply)].map
      fun (name, routine) => onInstances .integer name (.number routine)) ++
  [("to_s", .floatText), ("inspect", .floatText), ("==", .equal), ("<=>", .compare)].map
      fun (name, routine) => onInstances .float name (.number routine)

def forArray : List Registration :=
  [("length", .length), ("size", .length), ("[]", .index), ("first", .first),
    ("include?", .includes), ("to_a", .itself)].map
    fun (name, routine) => onInstances .array name (.array routine)

def forComparable : List Registration :=
  [("==", .equal), ("<", .less), ("<=", .lessOrEqual), (">", .greater), (">=", .greaterOrEqual),
    ("between?", .between), ("clamp", .clamp)].map
    fun (name, routine) => onInstances .comparable name (.comparable routine)

def forEncoding : List Registration :=
  ([("name", .nameText), ("to_s", .nameText), ("inspect", .inspect), ("names", .names),
    ("ascii_compatible?", .asciiCompatible), ("dummy?", .isDummy),
    ("valid_codepoint?", .validCode)].map
      fun (name, routine) => onInstances .encoding name (.encoding routine)) ++
  [("default_internal", .defaultInternal), ("default_internal=", .setDefaultInternal),
    ("default_external", .defaultExternal), ("default_external=", .setDefaultExternal),
    ("find", .find), ("list", .list), ("name_list", .nameList)].map
      fun (name, routine) => onClass .encoding name (.encoding routine)

/-- All builtin methods, in the order in which they are put into their classes. -/
def registrations : List Registration :=
  forBasicObject ++ forKernel ++ forModule ++ forClass ++ forSingulars ++ forString ++ forSymbol ++
    forNumbers ++ forArray ++ forComparable ++ forEncoding

end Builtin

end ObjectModel
