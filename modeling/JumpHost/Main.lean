/-
**The program.**

The files that a command concerns are read into a tree, the command is run on the tree, and what it
changed is written back.  No transport is part of the program: it runs in an outside in which no
connection comes about.

Main definitions:

* `JumpHost.Program.load`, `JumpHost.Program.store` — reading and writing the tree;
* `main` — the program.
-/

import JumpHost.CommandLine

set_option autoImplicit false

namespace JumpHost.Program

/-! ### Files -/

/-- What stands at a path, where reading a directory is of an inappropriate type. -/
def probe (path : String) : IO (Option Entry) := do
  match ← (IO.FS.readBinFile path).toBaseIO with
  | .ok content => return some (.file 0o644 content.toList)
  | .error (.noFileOrDirectory _ _ _) => return none
  | .error (.inappropriateType _ _ _) => return some (.directory 0o755)
  | .error e => throw e

/-- Puts what stands at a path into the tree. -/
def loadOne (t : FileTree) (path : String) : IO FileTree := do
  match t.locate path with
  | .error _ => return t
  | .ok place =>
    if place.entry.isOk then return t
    match ← probe path with
    | some entry => return t.put place.location entry
    | none => return t

/-- Puts what stands at a path, and the directories above it, into the tree. -/
def load (t : FileTree) (path : String) : IO FileTree :=
  (Path.ancestors path).reverse.foldlM loadOne t

/-- Writes an entry that was changed. -/
def storeOne (before : FileTree) : List String × Entry → IO Unit
  | (location, entry) => do
    if before.get? location = some entry then return
    let file := Path.spell location
    match entry with
    | .directory _ => IO.FS.createDirAll file
    | .file mode content =>
      IO.FS.writeBinFile file ⟨content.toArray⟩
      if mode = 0o600 then
        IO.setAccessRights file { user := { read := true, write := true } }

/-- Writes what was changed, the earliest change first. -/
def store (before after : FileTree) : IO Unit := after.entries.reverse.forM (storeOne before)

/-! ### Running -/

/-- The name of a level in the log. -/
def levelName : Level → String
  | .debug => "DEBUG"
  | .info => "INFO"
  | .warning => "WARN"
  | .error => "ERROR"

/-- Prints an event, unless it is of the lowest level. -/
def log (e : Event) : IO Unit :=
  if e.level = .debug then pure () else IO.eprintln s!"{levelName e.level} {e.message}"

/-- The address on which a bridge listens. -/
def bridge : SocketAddress := .v4 ⟨127, 0, 0, 1⟩ 0

/-- Runs the program with its arguments. -/
def run (arguments : List String) : IO UInt32 := do
  let ledgerPath := Ledger.defaultPath (← IO.getEnv "HOME") (← IO.getEnv "USERPROFILE")
  let first ← (CommandLine.filesOf ledgerPath ⟨[]⟩ arguments).foldlM load ⟨[]⟩
  let before ← (CommandLine.filesOf ledgerPath first arguments).foldlM load first
  let outside := Outside.unreachable ledgerPath
  let output := CommandLine.run outside (.unreachable bridge) before arguments
  store before output.files
  output.events.forM log
  output.stdout.forM (IO.println ·)
  output.stderr.forM (IO.eprintln ·)
  return output.exitCode

end JumpHost.Program

/-- The program. -/
def main (arguments : List String) : IO UInt32 := JumpHost.Program.run arguments
