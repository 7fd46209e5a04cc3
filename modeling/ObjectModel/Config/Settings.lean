import ObjectModel.Config.Source
import ObjectModel.Table

/-! # Settings

The settings of a build map texts to texts. They are made once from a source, which is refused at its first pair
that is not one of texts or repeats a key, and are only read afterwards. Some questions about a build are answered
from several of its settings together.
-/

namespace ObjectModel.Config

/-- A value of the configuration, and whether it may not be changed. -/
structure Entry where
  value : String
  frozen : Bool
  deriving DecidableEq, Repr

/-- Whether the values of a configuration may be changed by those who read them. -/
inductive Policy
  | mutable
  | frozen
  deriving DecidableEq, Repr

/-- A configuration: its values by key, and whether it describes an installed tree. -/
structure Settings where
  table : Table String Entry
  installed : Bool
  deriving DecidableEq, Repr

/-- The answer to a question about the build. -/
inductive Flag
  | bool (value : Bool)
  | text (value : String)
  deriving DecidableEq, Repr

namespace Settings

def empty : Settings := { table := Table.empty, installed := false }

/-- The key and value of a pair that may be added to a table: a key that is no text is reported before
a value that is none, and that before a key that is taken. -/
def checkPair (table : Table String Entry) (pair : Raw × Raw) : Except Failure (String × String) :=
  match pair.1 with
  | .text key =>
      match pair.2 with
      | .text value => if table.contains key then throw (.duplicateKey key) else pure (key, value)
      | other => throw (.valueNotText key other.className)
  | other => throw (.keyNotText other.className)

/-- Adds pairs to a table until one is refused. -/
def addPairs (frozen : Bool) (table : Table String Entry) :
    List (Raw × Raw) → Except Failure (Table String Entry)
  | [] => pure table
  | pair :: rest => do
      let (key, value) ← checkPair table pair
      addPairs frozen (table.insert key { value := value, frozen := frozen }) rest

/-- The configuration of a source. -/
def ofSource (source : Source) (policy : Policy) : Except Failure Settings := do
  let pairs ← source.pairs
  let table ← addPairs (policy = .frozen) Table.empty pairs
  pure { table := table, installed := source.installed }

/-- The value of a key. -/
def get? (settings : Settings) (key : String) : Option String :=
  (settings.table.find? key).map Entry.value

/-- The value of a key that has to be there. -/
def fetch (settings : Settings) (key : String) : Except Failure String :=
  match settings.get? key with
  | some value => pure value
  | none => throw (.missingKey key)

/-- Whether the value of a key may not be changed, if there is one. -/
def frozen? (settings : Settings) (key : String) : Option Bool :=
  (settings.table.find? key).map Entry.frozen

/-- The keys and values in order. -/
def entries (settings : Settings) : List (String × String) :=
  settings.table.entries.map fun pair => (pair.1, pair.2.value)

def size (settings : Settings) : Nat := settings.table.size

def isEmpty (settings : Settings) : Bool := settings.table.isEmpty

/-- The directory into which the tree is installed, if it is. -/
def topDirectory? (settings : Settings) : Option String :=
  if settings.installed then settings.get? "prefix" else none

/-- Whether the library of the build is the shared one. -/
def libraryIsShared (settings : Settings) : Bool :=
  match settings.get? "LIBRUBY", settings.get? "LIBRUBY_SO" with
  | some library, some shared => library = shared
  | _, _ => false

/-- The directory of the shared library: that of the programs where libraries are searched along the
program path, else the one that `libdirname` names. -/
def libraryDirectory? (settings : Settings) : Option String :=
  if settings.get? "LIBPATHENV" = some "PATH" then settings.get? "bindir"
  else settings.get? ((settings.get? "libdirname").getD "libdir")

/-- The path of the shared library. -/
def libraryPath? (settings : Settings) : Option String := do
  let library ← settings.get? "LIBRUBY_SO"
  let directory ← settings.libraryDirectory?
  pure (withoutSlashes directory ++ "/" ++ library)

/-- The questions about the build that are answered by name, in the order in which they are listed. -/
def flagNames : List String :=
  ["enable_shared", "libruby_is_shared", "libruby_so_path", "archiver", "stripper", "compiler",
    "installed"]

/-- The answer to a question about the build. -/
def flag? (settings : Settings) (name : String) : Option Flag :=
  match name with
  | "enable_shared" => some (.bool (settings.get? "ENABLE_SHARED" = some "yes"))
  | "libruby_is_shared" => some (.bool settings.libraryIsShared)
  | "libruby_so_path" => settings.libraryPath?.map .text
  | "archiver" => (settings.get? "AR").map .text
  | "stripper" => (settings.get? "STRIP").map .text
  | "compiler" => (settings.get? "CC").map .text
  | "installed" => some (.bool settings.installed)
  | _ => none

end Settings

end ObjectModel.Config
