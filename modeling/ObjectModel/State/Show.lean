import ObjectModel.State
import ObjectModel.Text.Quoted

/-! # Showing values

The texts by which values are shown: as text, for inspection, and as receivers in messages. Showing a value never
calls a method.
-/

namespace ObjectModel.State

/-- The class of a value that is not a singleton class. -/
def classOf (state : State) : Value → ClassId
  | .nil => CoreClass.nilClass.id
  | .bool true => CoreClass.trueClass.id
  | .bool false => CoreClass.falseClass.id
  | .int _ => CoreClass.integer.id
  | .float _ => CoreClass.float.id
  | .symbol _ => CoreClass.symbol.id
  | .encoding _ => CoreClass.encoding.id
  | .str id | .object id => (state.heap.object id).cls
  | .cls id => state.graph.classOfClass id

/-- The name of a value's class. -/
def className (state : State) (value : Value) : String :=
  state.graph.displayName (state.classOf value)

/-- The text of a symbol; one that was never handed out is shown by its position. -/
def symbolText (state : State) (symbol : Symbol) : String :=
  (state.names.text? symbol).getD ("<symbol " ++ toString symbol.index ++ ">")

/-- The text of a value that is a string. -/
def text? (state : State) : Value → Option String
  | .str id => (state.heap.object id).text?
  | _ => none

/-- The items of a value that is an array. -/
def items? (state : State) : Value → Option (List Value)
  | .object id => (state.heap.object id).items?
  | _ => none

/-- An object shown by its class and position. -/
def handle (state : State) (cls : ClassId) (id : ObjectId) : String :=
  state.graph.displayName cls ++ ":" ++ Graph.handleText id.index

/-- An encoding shown for inspection. -/
def inspectEncoding (id : EncodingId) : String :=
  let note := if (Encoding.get? id).any Encoding.isDummy then " (dummy)" else ""
  "#<Encoding:" ++ Encoding.nameOf id ++ note ++ ">"

/-- A value shown for inspection, with a bound on the depth of objects within objects. -/
def inspectWithin (state : State) : Nat → Value → String
  | 0, _ => "..."
  | fuel + 1, value =>
      match value with
      | .nil => "nil"
      | .bool flag => if flag then "true" else "false"
      | .int number => toString number
      | .float bits => Decimal.decimalText bits
      | .symbol name => ":" ++ state.symbolText name
      | .str id => Text.quoted ((state.heap.object id).text?.getD "")
      | .cls id => state.graph.displayName id
      | .encoding id => inspectEncoding id
      | .object id =>
          let object := state.heap.object id
          match object.items? with
          | some items => "[" ++ ", ".intercalate (items.map (state.inspectWithin fuel)) ++ "]"
          | none =>
              let parts := object.ownVariables.entries.map fun (name, content) =>
                state.symbolText name ++ "=" ++ state.inspectWithin fuel content
              let shown := if parts = [] then "" else " " ++ ", ".intercalate parts
              "#<" ++ state.handle object.cls id ++ shown ++ ">"

/-- A value shown for inspection. Objects that do not contain themselves are at most as deep as the heap
is large. -/
def inspect (state : State) (value : Value) : String :=
  state.inspectWithin (state.heap.size + 1) value

/-- A value as text. -/
def toText (state : State) (value : Value) : String :=
  match value with
  | .nil => ""
  | .symbol name => state.symbolText name
  | .str id => (state.heap.object id).text?.getD ""
  | .encoding id => Encoding.nameOf id
  | .object id =>
      let object := state.heap.object id
      if object.items?.isSome then state.inspect value
      else "#<" ++ state.handle object.cls id ++ ">"
  | _ => state.inspect value

/-- A value as the receiver in a message. -/
def describeReceiver (state : State) (value : Value) : String :=
  match value with
  | .nil | .bool _ => state.inspect value
  | .cls id => (if state.graph.isModule id then "module " else "class ") ++ state.graph.displayName id
  | _ => "an instance of " ++ state.className value

end ObjectModel.State

namespace ObjectModel

/-- The integer by which a value is identified: odd for integers, and an exact float where it is too large
for an integer; even for the others. -/
def Value.identity : Value → Value
  | .int number =>
      let id := 2 * number + 1
      if leastInt ≤ id && id ≤ greatestInt then .int id else ofFloat (Float.ofInt id)
  | .bool false => .int 0
  | .nil => .int 8
  | .bool true => .int 20
  | .float bits =>
      let folded := (bits.toNat % 0x100000000) ^^^ (bits.toNat / 0x100000000)
      .ofInt (2 * (9 * 0x100000000 + folded : Nat))
  | value =>
      let word := Word.ofValue value
      .ofInt (2 * (word.tag * 0x100000000 + word.payload % 0x100000000 : Nat))

end ObjectModel
