import ObjectModel.CommandLine.Answer

/-! # The program

Reads the file that a request names, prints the reply and exits with its code.
-/

namespace ObjectModel.CommandLine

/-- The number of a system error, which some calls give with its sign turned. -/
def errorNumber (number : UInt32) : Nat :=
  if number.toNat < 0x80000000 then number.toNat else 0x100000000 - number.toNat

/-- The failure with the number of a system error. -/
def ReadFailure.ofNumber (number : UInt32) (details : String) : ReadFailure :=
  match errorNumber number with
  | 2 => .missing
  | 13 => .system 13 "Permission denied"
  | 20 => .notFolder
  | 21 => .isFolder
  | 36 => .nameTooLong
  | other => .system other details

/-- What an error of the system says about a file that cannot be read. -/
def ReadFailure.ofError : IO.Error → ReadFailure
  | .noFileOrDirectory _ number details => .ofNumber number details
  | .inappropriateType _ number details => .ofNumber number details
  | .permissionDenied _ number details => .ofNumber number details
  | .invalidArgument _ number details => .ofNumber number details
  | .resourceExhausted _ number details => .ofNumber number details
  | .otherError number details => .ofNumber number details
  | other => .system 5 (toString other)

/-- Reads the text of a file. -/
def readFile (path : String) : BaseIO (Except ReadFailure String) := do
  match ← (IO.FS.readBinFile path).toBaseIO with
  | .ok bytes => return decode bytes
  | .error failure => return .error (.ofError failure)

/-- Reads the file that a request names; there is no other file that it can see. -/
def readerFor (request : Request) : BaseIO Reader := do
  match request.source? with
  | none => return fun _ => .error .missing
  | some path =>
      let content ← readFile path
      return fun _ => content

end ObjectModel.CommandLine

open ObjectModel.CommandLine in
/-- Runs the command line. -/
def main (arguments : List String) : IO UInt32 := do
  let reader ← match Request.read arguments with
    | .ok request => readerFor request
    | .error _ => pure fun _ => .error .missing
  let reply := reply reader arguments
  IO.print reply.output
  IO.eprint reply.errors
  return reply.code.toUInt32
