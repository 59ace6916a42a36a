/-
**The command line.**

The program runs a query through a tunnel that a configuration file describes, or lists the host
keys that are trusted.  A flag takes the argument behind it as its value, unless that argument looks
like a flag itself.

Main definitions:

* `JumpHost.CommandLine.valueBehind` — the value of a flag;
* `JumpHost.CommandLine.Command`, `JumpHost.CommandLine.Command.ofArguments` — what is to be done;
* `JumpHost.CommandLine.Output`, `JumpHost.CommandLine.run` — doing it;
* `JumpHost.CommandLine.filesOf` — the files that a command concerns.
-/

import JumpHost.Config.Document
import JumpHost.Tunnel.Query

set_option autoImplicit false

namespace JumpHost.CommandLine

/-! ### Arguments -/

/-- An argument that looks like a flag. -/
def looksLikeFlag (argument : String) : Bool := argument.toList.head? = some '-'

/-- The value of a flag, which has a long name and may have a short one: the argument behind its
first occurrence. -/
def valueBehind (arguments : List String) (long : String) (short : Option String) : Option String :=
  match arguments.dropWhile fun a => a ≠ long && some a ≠ short with
  | _ :: value :: _ => if looksLikeFlag value then none else some value
  | _ => none

/-- What is to be done. -/
inductive Command where
  | version
  | help
  /-- Lists the trusted host keys of a ledger, by default of the usual one. -/
  | list (path : Option String)
  | query (configPath sql : String)
  /-- Something is missing. -/
  | refuse (reason : String)
  deriving DecidableEq

/-- What the arguments say is to be done. -/
def Command.ofArguments (arguments : List String) : Command :=
  if arguments.any fun a => a = "--version" ∨ a = "-V" then .version
  else if arguments = [] ∨ arguments.any fun a => a = "--help" ∨ a = "-h" then .help
  else if arguments.contains "--known-hosts" then .list (valueBehind arguments "--known-hosts" none)
  else
    match valueBehind arguments "--config" (some "-c") with
    | none => .refuse "missing --config <FILE> (see --help)"
    | some path => .query path ((valueBehind arguments "--query" (some "-q")).getD "SELECT 1")

/-! ### Texts -/

/-- The version of the program. -/
def versionLine : String := "bastion 0.1.0"

/-- The help. -/
def helpLines : List String :=
  [versionLine,
    "Reach a database through an SSH bastion, trusting host keys on first use",
    "",
    "USAGE:",
    "  bastion --config <FILE> [--query <SQL>]",
    "  bastion --known-hosts [PATH]",
    "",
    "OPTIONS:",
    "  -c, --config <FILE>      Tunnel configuration (JSON)",
    "  -q, --query <SQL>        Query to run through the tunnel [default: SELECT 1]",
    "      --known-hosts [PATH] List trusted host keys [default: ~/.ssh/known_hosts]",
    "  -h, --help               Print help",
    "  -V, --version            Print version",
    "",
    "Logging goes to stderr; set RUST_LOG=debug for channel-level detail."]

/-- The warning before a host key that must not be ignored. -/
def warningLines : List String :=
  ["@@@@@@@@@@@@@@@@@@@@@@@@@@@@@@@@@@@@@@@@@@@@@@@@@@@@@@@@@@@",
    "@    WARNING: REMOTE HOST IDENTIFICATION HAS CHANGED!     @",
    "@@@@@@@@@@@@@@@@@@@@@@@@@@@@@@@@@@@@@@@@@@@@@@@@@@@@@@@@@@@",
    "Someone could be intercepting this connection."]

/-- The lines of a text. -/
def linesOf (s : String) : List String := (s.toList.splitOn '\n').map String.ofList

/-- A cause, its first line behind `first` and the others behind as many blanks. -/
def causeLines (first : String) (cause : String) : List String :=
  match linesOf cause with
  | [] => []
  | line :: lines =>
    (first ++ line) :: lines.map (String.ofList (List.replicate first.length ' ') ++ ·)

/-- Causes with their numbers, right-aligned. -/
def numberedLines (n : Nat) : List String → List String
  | [] => []
  | cause :: causes =>
    let number := Text.numeral n
    let first := String.ofList (List.replicate (5 - number.length) ' ' ++ number) ++ ": "
    causeLines first cause ++ numberedLines (n + 1) causes

/-- The lines that report an error and its causes. -/
def errorLines (error : String) (causes : List String) : List String :=
  let head := linesOf s!"Error: {error}"
  match causes with
  | [] => head
  | [cause] => head ++ ["", "Caused by:"] ++ causeLines "    " cause
  | causes => head ++ ["", "Caused by:"] ++ numberedLines 0 causes

/-! ### Running -/

/-- What a run of the program gives. -/
structure Output where
  exitCode : UInt32 := 0
  stdout : List String := []
  stderr : List String := []
  files : FileTree
  events : List Event := []

/-- A run that fails. -/
def failure (t : FileTree) (error : String) (causes : List String) : Output where
  exitCode := 1
  stderr := errorLines error causes
  files := t

/-- Lists the trusted host keys of the ledger at a path. -/
def list (t : FileTree) (path : String) : Output :=
  match Ledger.load t path with
  | .error e => failure t s!"failed to read {path}" [e.message]
  | .ok [] => { stdout := [s!"No trusted host keys in {path}"], files := t }
  | .ok records => { stdout := records.map fun r => s!"{r.pattern} {r.key.label}", files := t }

/-- What is shown of a query that was run. -/
def outputOfQuery (run : Establishment QueryOutput) : Output :=
  match run.result with
  | .ok q => { stdout := linesOf q.value.print, files := run.files, events := run.events }
  | .error e =>
    { exitCode := 1
      stderr := (if e.isCritical then warningLines else []) ++ errorLines e.message e.sources
      files := run.files
      events := run.events ++ [⟨.error, e.message⟩] }

/-- Runs a query with the configuration at a path. -/
def query (o : Outside) (d : Driver) (t : FileTree) (configPath sql : String) : Output :=
  match t.readText configPath with
  | .error e => failure t s!"failed to read {configPath}" [e.message]
  | .ok document =>
    match Config.ofDocument document with
    | .error e => failure t s!"invalid config {configPath}" [e.message]
    | .ok config => outputOfQuery (Query.run ⟨o, d, config, sql⟩ t)

/-- **Runs the program.** -/
def run (o : Outside) (d : Driver) (t : FileTree) (arguments : List String) : Output :=
  match Command.ofArguments arguments with
  | .version => { stdout := [versionLine], files := t }
  | .help => { stdout := helpLines, files := t }
  | .list path => list t (path.getD o.ledgerPath)
  | .query configPath sql => query o d t configPath sql
  | .refuse reason => failure t reason []

/-- The files that a command concerns, as far as a tree of files that has been read so far shows:
the configuration first, and then what it names. -/
def filesOf (ledgerPath : String) (t : FileTree) (arguments : List String) : List String :=
  match Command.ofArguments arguments with
  | .list path => [path.getD ledgerPath]
  | .query configPath _ =>
    match t.readText configPath with
    | .error _ => [configPath]
    | .ok document =>
      match Config.ofDocument document with
      | .error _ => [configPath]
      | .ok c => [configPath, c.ledgerPath.getD ledgerPath] ++ c.privateKeyPath.toList
  | _ => []

end JumpHost.CommandLine
