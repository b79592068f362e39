/-!
# Faults

What can go wrong when files are read and written.

* `Fault.message` is the wording; most faults have a number.
-/

namespace SiteGen

/-- Why a file **cannot be read or written**. -/
inductive Fault where
  /-- Something on the path does not exist. -/
  | notFound
  /-- Something on the path is no directory. -/
  | notDirectory
  /-- Something exists already. -/
  | exists
  /-- Something is a directory. -/
  | isDirectory
  /-- A directory would go into itself. -/
  | invalidArgument
  /-- A directory is not empty. -/
  | notEmpty
  /-- The last part of a path is no name. -/
  | busy
  /-- Too many links are on the path. -/
  | linkLoop
  /-- A name or a path is too long. -/
  | nameTooLong
  /-- A path contains a character that none may contain. -/
  | nulInPath
  /-- A file is no text. -/
  | notText
  /-- What should be copied is no file. -/
  | notRegular
deriving DecidableEq, Repr

namespace Fault

/-- A wording with the number of the fault. -/
def numbered (text : String) (number : Nat) : String :=
  text ++ " (os error " ++ toString number ++ ")"

/-- The **wording** of a fault. -/
def message : Fault → String
  | .notFound => numbered "No such file or directory" 2
  | .notDirectory => numbered "Not a directory" 20
  | .exists => numbered "File exists" 17
  | .isDirectory => numbered "Is a directory" 21
  | .invalidArgument => numbered "Invalid argument" 22
  | .notEmpty => numbered "Directory not empty" 39
  | .busy => numbered "Device or resource busy" 16
  | .linkLoop => numbered "Too many levels of symbolic links" 40
  | .nameTooLong => numbered "File name too long" 36
  | .nulInPath => "file name contained an unexpected NUL byte"
  | .notText => "stream did not contain valid UTF-8"
  | .notRegular => "the source path is neither a regular file nor a symlink to a regular file"

end Fault

end SiteGen
