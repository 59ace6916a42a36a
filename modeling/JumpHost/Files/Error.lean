/-
**Why the operating system refuses.**

The refusals that files and connections meet, each with the text and the number under which the
system reports it.

Main definitions:

* `JumpHost.OsError` — the causes;
* `JumpHost.OsError.message` — their text.
-/

set_option autoImplicit false

namespace JumpHost

/-- Why the operating system refuses. -/
inductive OsError where
  | notFound
  | alreadyExists
  | notADirectory
  | isADirectory
  | nameTooLong
  | nulInName
  | notText
  | invalidArgument
  | socketPathTooLong
  | nulInSocketPath
  | nameUnresolved
  | networkUnreachable
  | connectionRefused
  /-- Any other refusal, by its text. -/
  | other (text : String)
  deriving DecidableEq

/-- The text of a refusal. -/
def OsError.message : OsError → String
  | notFound => "No such file or directory (os error 2)"
  | alreadyExists => "File exists (os error 17)"
  | notADirectory => "Not a directory (os error 20)"
  | isADirectory => "Is a directory (os error 21)"
  | nameTooLong => "File name too long (os error 36)"
  | nulInName => "file name contained an unexpected NUL byte"
  | notText => "stream did not contain valid UTF-8"
  | invalidArgument => "Invalid argument (os error 22)"
  | socketPathTooLong => "path must be shorter than SUN_LEN"
  | nulInSocketPath => "paths must not contain interior null bytes"
  | nameUnresolved =>
    "failed to lookup address information: Temporary failure in name resolution"
  | networkUnreachable => "Network is unreachable (os error 101)"
  | connectionRefused => "Connection refused (os error 111)"
  | other text => text

end JumpHost
