import ObjectModel.Name
import ObjectModel.Value

/-! # The catalog of encodings

The encodings are fixed. Each has a primary name and further names, and is found under any of them whatever the
case of its letters.
-/

namespace ObjectModel

/-- One encoding of the catalog. -/
structure Encoding where
  name : String
  aliases : List String
  asciiCompatible : Bool
  /-- Whether the encoding has a name but no working conversion. -/
  isDummy : Bool
  greatestCode : Nat
  deriving DecidableEq, Repr

namespace Encoding

def names (encoding : Encoding) : List String := encoding.name :: encoding.aliases

/-- Whether two names are the same but for the case of their letters. -/
def sameName (first second : String) : Bool :=
  first.toList.map Name.capital = second.toList.map Name.capital

def hasName (encoding : Encoding) (name : String) : Bool := encoding.names.any (sameName · name)

/-- Whether a number is a code of the encoding. -/
def validCode (encoding : Encoding) (code : Int) : Bool :=
  0 ≤ code && code ≤ encoding.greatestCode

/-- The greatest code of the encodings that cover all of Unicode. -/
def unicodeGreatest : Nat := 0x10FFFF

/-- The encodings, in the order of their positions. -/
def catalog : List Encoding :=
  [{ name := "ASCII-8BIT", aliases := ["BINARY"], asciiCompatible := true, isDummy := false,
     greatestCode := 0xFF },
   { name := "UTF-8", aliases := ["CP65001"], asciiCompatible := true, isDummy := false,
     greatestCode := unicodeGreatest },
   { name := "US-ASCII", aliases := ["ASCII", "ANSI_X3.4-1968", "646"], asciiCompatible := true,
     isDummy := false, greatestCode := 0x7F },
   { name := "UTF-16LE", aliases := [], asciiCompatible := false, isDummy := false,
     greatestCode := unicodeGreatest },
   { name := "UTF-16BE", aliases := ["UCS-2BE"], asciiCompatible := false, isDummy := false,
     greatestCode := unicodeGreatest },
   { name := "UTF-32LE", aliases := ["UCS-4LE"], asciiCompatible := false, isDummy := false,
     greatestCode := unicodeGreatest },
   { name := "UTF-32BE", aliases := ["UCS-4BE"], asciiCompatible := false, isDummy := false,
     greatestCode := unicodeGreatest },
   { name := "ISO-8859-1", aliases := ["ISO8859-1"], asciiCompatible := true, isDummy := false,
     greatestCode := 0xFF },
   { name := "Shift_JIS", aliases := [], asciiCompatible := true, isDummy := false,
     greatestCode := 0xFCFC },
   { name := "EUC-JP", aliases := ["eucJP"], asciiCompatible := true, isDummy := false,
     greatestCode := 0x8FFEFE },
   { name := "Windows-1252", aliases := ["CP1252"], asciiCompatible := true, isDummy := false,
     greatestCode := 0xFF },
   { name := "UTF-7", aliases := ["CP65000"], asciiCompatible := false, isDummy := true,
     greatestCode := unicodeGreatest }]

def get? (encoding : EncodingId) : Option Encoding := catalog[encoding.index]?

/-- The primary name of the encoding at a position, empty if there is none. -/
def nameOf (encoding : EncodingId) : String := ((get? encoding).map name).getD ""

/-- The encoding with a name. -/
def find? (name : String) : Option EncodingId :=
  (catalog.findIdx? (hasName · name)).map EncodingId.mk

def all : List EncodingId := (List.range catalog.length).map EncodingId.mk

def allNames : List String := catalog.flatMap names

end Encoding

end ObjectModel
