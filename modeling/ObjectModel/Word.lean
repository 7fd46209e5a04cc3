import ObjectModel.Decimal.Positional
import ObjectModel.Value

/-! # Words

A value packed into 64 bits. A word whose top sixteen bits lie between `fff1` and `ffff` is tagged: those bits
give the kind and the low 48 bits the payload. Every other word is a float.
-/

namespace ObjectModel

/-- A value packed into 64 bits. -/
structure Word where
  bits : UInt64
  deriving DecidableEq, Repr

namespace Word

def payloadModulus : Nat := 0x1000000000000

def top (word : Word) : Nat := word.bits.toNat / payloadModulus

def payload (word : Word) : Nat := word.bits.toNat % payloadModulus

/-- The word with the given tag and the low 48 bits of the given number. -/
def pack (tag : Nat) (content : Int) : Word :=
  ⟨UInt64.ofNat ((0xFFF0 + tag) * payloadModulus + (content % payloadModulus).toNat)⟩

def nil : Word := pack 3 0

def ofBool (flag : Bool) : Word := pack 2 (if flag then 1 else 0)

/-- The word of an integer; the low 48 bits are kept. -/
def ofInt (number : Int) : Word := pack 1 number

/-- The word of a float; all floats that are not numbers share one word. -/
def ofFloatBits (bits : UInt64) : Word :=
  ⟨if Decimal.isNotNumber bits then Value.notNumber else bits⟩

def ofSymbol (symbol : Symbol) : Word := pack 4 (symbol.index : Int)

def ofObject (object : ObjectId) : Word := pack 5 (object.index : Int)

def ofStr (object : ObjectId) : Word := pack 6 (object.index : Int)

def ofClass (cls : ClassId) : Word := pack 7 (cls.index : Int)

def ofEncoding (encoding : EncodingId) : Word := pack 8 (encoding.index : Int)

/-- The word of a value. -/
def ofValue : Value → Word
  | .nil => nil
  | .bool flag => ofBool flag
  | .int number => ofInt number
  | .float bits => ofFloatBits bits
  | .symbol symbol => ofSymbol symbol
  | .str object => ofStr object
  | .object object => ofObject object
  | .cls cls => ofClass cls
  | .encoding encoding => ofEncoding encoding

/-- A word is a float unless its top bits are `fff1` or more. -/
def isFloat (word : Word) : Bool := word.top < 0xFFF1

/-- The tag of a word, zero for floats. -/
def tag (word : Word) : Nat := if word.isFloat then 0 else word.top - 0xFFF0

def isInt (word : Word) : Bool := word.top = 0xFFF1

def isBool (word : Word) : Bool := word.tag = 2

def isNil (word : Word) : Bool := word = nil

def isSymbol (word : Word) : Bool := word.tag = 4

def isObject (word : Word) : Bool := word.tag = 5

def isStr (word : Word) : Bool := word.tag = 6

def isClass (word : Word) : Bool := word.tag = 7

def isEncoding (word : Word) : Bool := word.tag = 8

/-- Only the words of the absent value and of false count as false. -/
def isTruthy (word : Word) : Bool := !word.isNil && word ≠ ofBool false

/-- Whether a word holds a value without state of its own. -/
def isImmediate (word : Word) : Bool := word.isFloat || word.isInt || word.isSymbol

def isHeap (word : Word) : Bool := word.isObject || word.isStr

def asInt (word : Word) : Int := (word.payload : Int).bmod payloadModulus

def asBool (word : Word) : Bool := word.bits.toNat % 2 = 1

def asSymbol (word : Word) : Symbol := ⟨word.bits.toNat % 0x100000000⟩

def asObject (word : Word) : ObjectId := ⟨word.payload⟩

def asClass (word : Word) : ClassId := ⟨word.payload⟩

def asEncoding (word : Word) : EncodingId := ⟨word.payload⟩

/-- The value that a word holds; a tag that no value has reads as the absent value. -/
def kind (word : Word) : Value :=
  if word.isFloat then .float word.bits
  else match word.tag with
    | 1 => .int word.asInt
    | 2 => .bool word.asBool
    | 4 => .symbol word.asSymbol
    | 5 => .object word.asObject
    | 6 => .str word.asObject
    | 7 => .cls word.asClass
    | 8 => .encoding word.asEncoding
    | _ => .nil

/-- A handle shown with its position. -/
def handleText (kind handle : String) (index : Nat) : String :=
  kind ++ "(id=" ++ handle ++ "(" ++ toString index ++ "))"

/-- The value of a word shown for inspection by its kind and content. -/
def describe (word : Word) : String :=
  match word.kind with
  | .nil => "Nil"
  | .bool flag => "Bool(" ++ (if flag then "true" else "false") ++ ")"
  | .int number => "Int(" ++ toString number ++ ")"
  | .float bits => "Float(" ++ Decimal.positionalText bits ++ ")"
  | .symbol symbol => "Symbol(" ++ toString symbol.index ++ ")"
  | .str object => handleText "Str" "ObjectId" object.index
  | .object object => handleText "Object" "ObjectId" object.index
  | .cls cls => handleText "Class" "ClassId" cls.index
  | .encoding encoding => handleText "Encoding" "EncodingId" encoding.index

end Word

end ObjectModel
