import ObjectModel.Builtin
import ObjectModel.Script

/-! # Methods

What a method table holds: a body, the class in whose table it was put, and who may call it. A tombstone in place
of a body hides the methods of the same name further up.
-/

namespace ObjectModel

/-- What runs when a method is called. -/
inductive Body
  /-- A builtin, with the number of the installation that put it there. -/
  | builtin (builtin : Builtin) (installation : Nat)
  /-- Reads an instance variable. -/
  | reader (name : String)
  /-- Writes an instance variable. -/
  | writer (name : String)
  /-- A body written as an expression. -/
  | script (expression : Expr)
  /-- Nothing: the method was undefined. -/
  | tombstone

/-- Whether a body is there at all. -/
def Body.isDefined : Body → Bool
  | .tombstone => false
  | _ => true

/-- Whether a body is the hook for missing methods that was there from the start, which only fails. -/
def Body.isStockMissing : Body → Bool
  | .builtin { routine := .basic .missing, .. } 0 => true
  | _ => false

/-- An entry of a method table. -/
structure MethodEntry where
  owner : ClassId
  body : Body
  visibility : Visibility

def MethodEntry.isDefined (entry : MethodEntry) : Bool := entry.body.isDefined

/-- Whether an entry may be called only without an explicit receiver. -/
def MethodEntry.isPrivate (entry : MethodEntry) : Bool := entry.visibility = .priv

end ObjectModel
