import ObjectModel.Decimal.Binary
import ObjectModel.Symbol

/-! # Values

A value is an immediate (a number, a symbol, a truth value or nothing) or a handle: the position of a heap
object, of a class record or of an encoding. Integers have 48 bits; floats are kept as binary64 words in which
all values that are not numbers are one.
-/

namespace ObjectModel

/-- The position of a heap object. -/
structure ObjectId where
  index : Nat
  deriving DecidableEq, Repr

/-- The position of a class, module or singleton class in the class graph. -/
structure ClassId where
  index : Nat
  deriving DecidableEq, Repr

/-- The position of an encoding in the catalog. -/
structure EncodingId where
  index : Nat
  deriving DecidableEq, Repr

/-- The values of the object model. -/
inductive Value
  | nil
  | bool (flag : Bool)
  | int (number : Int)
  | float (bits : UInt64)
  | symbol (name : Symbol)
  | str (id : ObjectId)
  | object (id : ObjectId)
  | cls (id : ClassId)
  | encoding (id : EncodingId)
  deriving DecidableEq, Repr

namespace Value

def intModulus : Nat := 0x1000000000000

def leastInt : Int := -0x800000000000

def greatestInt : Int := 0x7FFFFFFFFFFF

/-- The word of every float that is not a number. -/
def notNumber : UInt64 := 0x7FF8000000000000

/-- An integer value: of the number, the low 48 bits are kept and read with a sign. -/
def ofInt (number : Int) : Value := .int (number.bmod intModulus)

/-- A float value from its word; all words that are no number become one. -/
def ofBits (bits : UInt64) : Value :=
  .float (if Decimal.isNotNumber bits then notNumber else bits)

def ofFloat (number : Float) : Value := ofBits number.toBits

/-- Only the absent value and the false one count as false. -/
def isTruthy : Value → Bool
  | .nil => false
  | .bool flag => flag
  | _ => true

/-- Values that can never hold state of their own: numbers and symbols. -/
def isImmediate : Value → Bool
  | .int _ | .float _ | .symbol _ => true
  | _ => false

/-- The heap object that a value stands for. -/
def objectId? : Value → Option ObjectId
  | .str id | .object id => some id
  | _ => none

/-- The name of a value's kind. -/
def kindName : Value → String
  | .nil => "nil"
  | .bool true => "true"
  | .bool false => "false"
  | .int _ => "Integer"
  | .float _ => "Float"
  | .symbol _ => "Symbol"
  | .str _ => "String"
  | .object _ => "Object"
  | .cls _ => "Class"
  | .encoding _ => "Encoding"

end Value

end ObjectModel
