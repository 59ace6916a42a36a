/-
**Ledger files.**

A ledger lives in a file, by default below the home directory.  Reading a missing file gives an
empty ledger.  Writing makes the file, readable by its owner alone, and the directories above it;
what was made on the way stays even if a later step is refused.

Main definitions:

* `JumpHost.LedgerError` — why a ledger cannot be used, or must not be trusted;
* `JumpHost.Ledger.defaultPath` — where the ledger lies when nothing is said;
* `JumpHost.Ledger.load`, `JumpHost.Ledger.find`, `JumpHost.Ledger.findAll` — reading;
* `JumpHost.Ledger.ensureDirectory`, `JumpHost.Ledger.add`, `JumpHost.Ledger.consultAt` — writing.
-/

import JumpHost.Files.Tree
import JumpHost.Ledger.Contents

set_option autoImplicit false

namespace JumpHost

/-- Why a ledger cannot be used, or must not be trusted. -/
inductive LedgerError where
  /-- The file cannot be read or written. -/
  | io (reason : String)
  /-- The host presents a key that is not one of those on file. -/
  | hostKeyMismatch (host expected presented : String)
  deriving DecidableEq

/-- The wording of a ledger error. -/
def LedgerError.message : LedgerError → String
  | io reason => s!"I/O error: {reason}"
  | hostKeyMismatch host expected presented =>
    s!"HOST KEY MISMATCH for {host}: the ledger trusts {expected} " ++
      s!"but the server presented {presented}. " ++
      "Someone could be impersonating the host, or its key was rotated. Refusing to connect."

/-- The system refused one of the actions on a ledger file. -/
def LedgerError.refused (action : String) (e : OsError) : LedgerError :=
  .io s!"failed to {action}: {e.message}"

namespace Ledger

/-- Where the ledger lies when nothing is said: below the first of the two home directories that is
set and not empty, else below the working directory. -/
def defaultPath (home profile : Option String) : String :=
  let base := ([home, profile].filterMap id).find? (· ≠ "")
  Path.join (Path.join (base.getD ".") ".ssh") "known_hosts"

/-! ### Reading -/

/-- The records of the ledger at a path; a missing file is an empty ledger. -/
def load (t : FileTree) (path : String) : Except LedgerError (List HostRecord) :=
  match t.open? path with
  | .error .notFound => .ok []
  | .error e => .error (.refused "open ledger file" e)
  | .ok (.error e) => .error (.refused "read ledger file" e)
  | .ok (.ok contents) => .ok (records contents)

/-- The records of a host in the ledger at a path, in file order. -/
def findAll (t : FileTree) (path host : String) : Except LedgerError (List HostRecord) :=
  (load t path).map (·.filter fun r => HostPattern.covers r.pattern host)

/-- The first record of a host in the ledger at a path. -/
def find (t : FileTree) (path host : String) : Except LedgerError (Option HostRecord) :=
  (findAll t path host).map List.head?

/-! ### Writing -/

/-- Makes the directory that holds the ledger, for its owner alone, unless it is there. -/
def ensureDirectory (t : FileTree) (path : String) : Except LedgerError Unit × FileTree :=
  match Path.parent? path with
  | none => (.ok (), t)
  | some parent =>
    if parent = "" ∨ t.exists? parent then (.ok (), t)
    else
      match t.makeDirectories 0o700 (Path.ancestors parent) with
      | (none, made) => (.ok (), made)
      | (some e, made) => (.error (.refused "create ledger directory" e), made)

/-- Opens the ledger at a path for reading and appending and gives it the contents that `f` makes
of the present ones.  The file is made, for its owner alone, if it is missing. -/
def update {α : Type} (t : FileTree) (path : String) (f : List UInt8 → α × List UInt8) :
    Except LedgerError α × FileTree :=
  match ensureDirectory t path with
  | (.error e, t) => (.error e, t)
  | (.ok _, t) =>
    match t.openOrCreate path 0o600 with
    | .error e => (.error (.refused "open ledger file" e), t)
    | .ok (location, mode, contents) =>
      let (result, contents) := f contents
      (.ok result, t.put location (.file mode contents))

/-- Appends a record to the ledger at a path, whether or not the host is known. -/
def add (t : FileTree) (path : String) (r : HostRecord) :
    Except LedgerError Unit × FileTree :=
  update t path fun contents => ((), appended contents r)

/-- Looks a host up in the ledger at a path and, if it is unknown, appends the key that it
presents. -/
def consultAt (t : FileTree) (path host : String) (presented : HostKey) :
    Except LedgerError Outcome × FileTree :=
  update t path fun contents => consult contents host presented

end Ledger

end JumpHost
