import ObjectModel.Builtin.Arguments
import ObjectModel.DefaultEncoding

/-! # What encodings can do

The builtin methods of encodings, and those of their class, which finds encodings and keeps the defaults.
-/

namespace ObjectModel.Builtin

/-- The position of the encoding that a value is. -/
def expectEncoding (value : Value) : Action EncodingId :=
  match value with
  | .encoding id => pure id
  | _ => refuseKind value " is not an Encoding"

/-- New strings for several texts. -/
def newStrings : List String → Action (List Value)
  | [] => pure []
  | content :: rest => do
      let value ← newString content
      return value :: (← newStrings rest)

/-- The encoding that a value is or names. -/
def findEncoding (value : Value) : Action Value := do
  match value with
  | .encoding _ => pure value
  | _ =>
      let name ← expectText value
      return .encoding (← settle (Encoding.named name))

/-- The methods of encodings and of their class. -/
def runEncoding (run : Runner) (routine : EncodingRoutine) (receiver : Value)
    (arguments : List Value) : Action Value := do
  match routine with
  | .nameText =>
      checkArity (.exactly 0) arguments
      newString (Encoding.nameOf (← expectEncoding receiver))
  | .inspect =>
      checkArity (.exactly 0) arguments
      newString (State.inspectEncoding (← expectEncoding receiver))
  | .names =>
      checkArity (.exactly 0) arguments
      let id ← expectEncoding receiver
      newArray (← newStrings (((Encoding.get? id).map Encoding.names).getD []))
  | .asciiCompatible =>
      checkArity (.exactly 0) arguments
      let id ← expectEncoding receiver
      pure (.bool ((Encoding.get? id).any Encoding.asciiCompatible))
  | .isDummy =>
      checkArity (.exactly 0) arguments
      let id ← expectEncoding receiver
      pure (.bool ((Encoding.get? id).any Encoding.isDummy))
  | .validCode =>
      checkArity (.exactly 1) arguments
      let id ← expectEncoding receiver
      let code ← expectInt (argument arguments 0)
      pure (.bool ((Encoding.get? id).any fun encoding => encoding.validCode code))
  | .defaultInternal =>
      checkArity (.exactly 0) arguments
      ask State.defaultInternal
  | .setDefaultInternal =>
      checkArity (.exactly 1) arguments
      ObjectModel.setDefaultInternal run (argument arguments 0)
  | .defaultExternal =>
      checkArity (.exactly 0) arguments
      ask State.defaultExternal
  | .setDefaultExternal =>
      checkArity (.exactly 1) arguments
      ObjectModel.setDefaultExternal run (argument arguments 0)
  | .find =>
      checkArity (.exactly 1) arguments
      findEncoding (argument arguments 0)
  | .list =>
      checkArity (.exactly 0) arguments
      newArray (Encoding.all.map .encoding)
  | .nameList =>
      checkArity (.exactly 0) arguments
      newArray (← newStrings Encoding.allNames)

end ObjectModel.Builtin
