/-! # Files by path

A directory is modelled by its files: their paths and their bytes. A path is followed from the directory one name
after the other; one that leads out of it meets folders only by going further up. A file is read as text.
-/

namespace ObjectModel.CommandLine

/-- Why a file cannot be read. -/
inductive ReadFailure
  /-- The system refuses, with a number of its own. -/
  | system (number : Nat) (description : String)
  /-- The bytes of the file are no text. -/
  | notText
  deriving DecidableEq, Repr

namespace ReadFailure

/-- The text of a failure. -/
def message : ReadFailure → String
  | .system number description => description ++ " (os error " ++ toString number ++ ")"
  | .notText => "stream did not contain valid UTF-8"

/-- Nothing stands under the path. -/
def missing : ReadFailure := .system 2 "No such file or directory"

/-- The path goes on after a file. -/
def notFolder : ReadFailure := .system 20 "Not a directory"

/-- A folder stands under the path. -/
def isFolder : ReadFailure := .system 21 "Is a directory"

/-- The path, or a name in it, is longer than the system allows. -/
def nameTooLong : ReadFailure := .system 36 "File name too long"

end ReadFailure

/-- What gives the text under a path. -/
abbrev Reader := String → Except ReadFailure String

/-- A text from the bytes of a file. -/
def decode (bytes : ByteArray) : Except ReadFailure String :=
  match String.fromUTF8? bytes with
  | some content => .ok content
  | none => .error .notText

/-- The files of a directory, each with the names on its path and its bytes. -/
structure Directory where
  files : List (List String × ByteArray)

/-- Where a path has led so far. -/
inductive Position
  /-- A folder in the directory, by the names that lead to it. -/
  | folder (path : List String)
  /-- A folder above the directory or beside it. -/
  | outside
  | file (bytes : ByteArray)

namespace Directory

/-- Whether a name on a path stays where it is. -/
def isIdle (name : String) : Bool := name = "" || name = "."

/-- The directory with the given files, named by their paths. -/
def ofFiles (files : List (String × ByteArray)) : Directory :=
  { files := files.map fun (path, bytes) => ((path.splitOn "/").filter (!isIdle ·), bytes) }

/-- The bytes of the file at a path, if there is one. -/
def file? (directory : Directory) (path : List String) : Option ByteArray :=
  directory.files.lookup path

/-- Whether there are files below a path. -/
def hasFolder (directory : Directory) (path : List String) : Bool :=
  directory.files.any fun file => path.isPrefixOf file.1 && path ≠ file.1

/-- The file or folder of a name in a folder. -/
def entry (directory : Directory) (path : List String) (name : String) :
    Except ReadFailure Position :=
  match directory.file? (path ++ [name]) with
  | some bytes => .ok (.file bytes)
  | none => if directory.hasFolder (path ++ [name]) then .ok (.folder (path ++ [name]))
      else .error .missing

/-- Follows a path by one name. -/
def follow (directory : Directory) (position : Position) (name : String) :
    Except ReadFailure Position :=
  match position with
  | .file _ => .error .notFolder
  | .folder path =>
      if isIdle name then .ok position
      else if name = ".." then
        .ok (if path.isEmpty then .outside else .folder path.dropLast)
      else if name.utf8ByteSize > 255 then .error .nameTooLong
      else directory.entry path name
  | .outside =>
      if isIdle name || name = ".." then .ok .outside
      else if name.utf8ByteSize > 255 then .error .nameTooLong
      else .error .missing

/-- Where a path leads; one that starts with a slash starts outside the directory. -/
def locate (directory : Directory) (path : String) : Except ReadFailure Position :=
  if path = "" then .error .missing
  else if path.utf8ByteSize > 4095 then .error .nameTooLong
  else
    let start := if path.startsWith "/" then Position.outside else Position.folder []
    (path.splitOn "/").foldlM directory.follow start

/-- The text under a path. -/
def read (directory : Directory) : Reader := fun path => do
  match ← directory.locate path with
  | .file bytes => decode bytes
  | .folder _ | .outside => .error .isFolder

end Directory

end ObjectModel.CommandLine
