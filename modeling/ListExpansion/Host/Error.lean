/-
# ListExpansion.Host.Error -- why the host refused

The host's own errors carry its number for them; the others are found before the
host is asked.
-/

namespace ListExpansion

set_option autoImplicit false

inductive IoError where
  | notFound
  | noSuchDevice
  | accessDenied
  | alreadyExists
  | notADirectory
  | isADirectory
  | invalidArgument
  | nameTooLong
  | tooManyLinks
  | wrongSocketType
  | notSupported
  | addressInUse
  | addressUnavailable
  | networkUnreachable
  | connectionRefused
  /-- A NUL in the name of a file. -/
  | nulInFileName
  /-- A NUL inside the path of a socket. -/
  | nulInSocketPath
  | socketPathTooLong
  | abstractNameTooLong
  | notText
  | unknownHost
  | noParent
  /-- Anything else, by its text. -/
  | other (text : String)
  deriving DecidableEq, Repr

namespace IoError

/-- An error of the host, by its text and number. -/
def numbered (text : String) (number : Nat) : String :=
  text ++ " (os error " ++ toString number ++ ")"

def message : IoError → String
  | .notFound => numbered "No such file or directory" 2
  | .noSuchDevice => numbered "No such device or address" 6
  | .accessDenied => numbered "Permission denied" 13
  | .alreadyExists => numbered "File exists" 17
  | .notADirectory => numbered "Not a directory" 20
  | .isADirectory => numbered "Is a directory" 21
  | .invalidArgument => numbered "Invalid argument" 22
  | .nameTooLong => numbered "File name too long" 36
  | .tooManyLinks => numbered "Too many levels of symbolic links" 40
  | .wrongSocketType => numbered "Protocol wrong type for socket" 91
  | .notSupported => numbered "Operation not supported" 95
  | .addressInUse => numbered "Address already in use" 98
  | .addressUnavailable => numbered "Cannot assign requested address" 99
  | .networkUnreachable => numbered "Network is unreachable" 101
  | .connectionRefused => numbered "Connection refused" 111
  | .nulInFileName => "file name contained an unexpected NUL byte"
  | .nulInSocketPath => "paths must not contain interior null bytes"
  | .socketPathTooLong => "path must be shorter than SUN_LEN"
  | .abstractNameTooLong => "abstract socket name must be shorter than SUN_LEN"
  | .notText => "stream did not contain valid UTF-8"
  | .unknownHost =>
      "failed to lookup address information: Temporary failure in name resolution"
  | .noParent => "failed to create whole tree"
  | .other text => text

end IoError

end ListExpansion
