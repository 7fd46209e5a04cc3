import ObjectModel.Config.Literal

/-! # Configuration sources

A source yields pairs of raw values in order: pairs that are given, the assignments of a text, or the
parameters of a build under an installation prefix.
-/

namespace ObjectModel.Config

open Text

/-- What is known of a build: where it is installed, and whether its library is a shared one. -/
structure Build where
  root : String
  shared : Bool
  deriving DecidableEq, Repr

/-- Where the pairs of a configuration come from. -/
inductive Origin
  | pairs (pairs : List (Raw × Raw))
  | text (content : String)
  | build (build : Build)

/-- An origin, and whether it describes an installed tree. -/
structure Source where
  origin : Origin
  installed : Bool

def lines (text : List Char) : List (List Char) := text.splitOn '\n'

/-- A line without its blanks cut at its first equals sign. -/
def splitAssignment (line : List Char) : Option (List Char × List Char) :=
  if '=' ∈ line then
    some (trim (line.takeWhile (· ≠ '=')), trim ((line.dropWhile (· ≠ '=')).drop 1))
  else none

/-- The pair that a line without blanks at its ends assigns. -/
def readAssignment (line : List Char) : Option (Raw × Raw) := do
  let (key, value) ← splitAssignment line
  if key = [] then none
  else do
    let content ← readValue value
    pure (.text (String.ofList key), content)

/-- Whether a line without blanks at its ends is passed over: it is empty or a comment. -/
def isSkipped (line : List Char) : Bool := line = [] || line.head? = some '#'

/-- The pairs of the lines of a text, of which the first has the given number. -/
def readLines (number : Nat) : List (List Char) → Except Failure (List (Raw × Raw))
  | [] => pure []
  | line :: rest =>
      let content := trim line
      if isSkipped content then readLines (number + 1) rest
      else match readAssignment content with
        | none => throw (.malformedLine number (String.ofList content))
        | some pair => do
            let pairs ← readLines (number + 1) rest
            pure (pair :: pairs)

/-- A path without the slashes at its end. -/
def withoutSlashes (path : String) : String :=
  String.ofList (path.toList.reverse.dropWhile (· = '/')).reverse

def sharedLibrary : String := "libruby.so.3.3.0"

def staticLibrary : String := "libruby-static.a"

/-- The parameters of a build, in the order in which they are listed. -/
def Build.parameters (build : Build) : List (String × String) :=
  let root := withoutSlashes build.root
  let libraries := root ++ "/lib/ruby/3.3.0"
  [("prefix", root),
    ("bindir", root ++ "/bin"),
    ("libdir", root ++ "/lib"),
    ("libdirname", "libdir"),
    ("archdir", libraries ++ "/x86_64-linux"),
    ("rubylibdir", libraries),
    ("sitelibdir", root ++ "/lib/ruby/site_ruby/3.3.0"),
    ("arch", "x86_64-linux"),
    ("host_os", "linux"),
    ("target_os", "linux"),
    ("DLEXT", "so"),
    ("EXEEXT", ""),
    ("ENABLE_SHARED", if build.shared then "yes" else "no"),
    ("LIBRUBY", if build.shared then sharedLibrary else staticLibrary),
    ("LIBRUBY_SO", sharedLibrary),
    ("LIBRUBY_A", staticLibrary),
    ("LIBPATHENV", "LD_LIBRARY_PATH"),
    ("AR", "ar"),
    ("STRIP", "strip -S -x"),
    ("CC", "cc"),
    ("CPP", "cc -E"),
    ("MAJOR", "3"),
    ("MINOR", "3"),
    ("TEENY", "0"),
    ("ruby_version", "3.3.0"),
    ("RUBY_PROGRAM_VERSION", "3.3.0")]

/-- The build that is described when nothing else is asked for. -/
def Build.standard : Build := { root := "/usr/local", shared := true }

/-- The pairs of a source in order. -/
def Source.pairs (source : Source) : Except Failure (List (Raw × Raw)) :=
  match source.origin with
  | .pairs pairs => pure pairs
  | .text content => readLines 1 (lines content.toList)
  | .build build =>
      pure (build.parameters.map fun parameter => (.text parameter.1, .text parameter.2))

def Source.empty : Source := { origin := .pairs [], installed := false }

end ObjectModel.Config
