/-
**A tree of files and directories.**

What the ledger, the configuration and the private keys are read from is a tree of files, which is
a value: every operation takes a tree and gives back a tree.  The tree is a finite map from
locations, the lists of names from the working directory or from the root, to entries.  A path is
walked step by step, and every refusal that the walk can meet is the one that the system gives.

Main definitions:

* `JumpHost.FileTree` — a tree, with the view `get?` and the updates `put` and `erase`;
* `JumpHost.FileTree.locate` — where a path leads;
* `JumpHost.FileTree.open?`, `JumpHost.FileTree.read`, `JumpHost.FileTree.readText` — reading;
* `JumpHost.FileTree.openOrCreate`, `JumpHost.FileTree.write`, `JumpHost.FileTree.remove` —
  writing;
* `JumpHost.FileTree.makeDirectory`, `JumpHost.FileTree.makeDirectories` — directories.

Main statements:

* `JumpHost.FileTree.get?_put_self`, `JumpHost.FileTree.get?_put_of_ne` — the view after a write.
-/

import JumpHost.Files.Error
import JumpHost.Files.Path
import JumpHost.Text.Utf8

set_option autoImplicit false

namespace JumpHost

/-- What stands at a location: a directory or a file, each with its permission bits. -/
inductive Entry where
  | directory (mode : Nat)
  | file (mode : Nat) (content : List UInt8)
  deriving DecidableEq

/-- A tree of files and directories below the working directory and below the root. -/
structure FileTree where
  /-- The entries by location; the latest entry of a location stands first. -/
  entries : List (List String × Entry) := []

/-- Where a path leads: a location, what looking it up gives, and whether the path insists on a
directory. -/
structure Place where
  location : List String
  entry : Except OsError Entry
  insists : Bool

namespace FileTree

/-! ### The map -/

/-- The location of the root, of the working directory or of one above it, which always exist. -/
def isBase (location : List String) : Bool := location = ["/"] || location.all (· = "..")

/-- The entry at a location. -/
def get? (t : FileTree) (location : List String) : Option Entry :=
  if isBase location then some (.directory 0o700) else t.entries.lookup location

/-- The tree with an entry at a location. -/
def put (t : FileTree) (location : List String) (entry : Entry) : FileTree :=
  ⟨(location, entry) :: t.entries.filter (·.1 ≠ location)⟩

/-- The tree with nothing at a location. -/
def erase (t : FileTree) (location : List String) : FileTree :=
  ⟨t.entries.filter (·.1 ≠ location)⟩

theorem get?_put_self (t : FileTree) {location : List String} (entry : Entry)
    (h : isBase location = false) : (t.put location entry).get? location = some entry := by
  simp [get?, put, h]

theorem lookup_filter_ne {location other : List String} (h : other ≠ location)
    (entries : List (List String × Entry)) :
    (entries.filter (·.1 ≠ location)).lookup other = entries.lookup other := by
  induction entries with
  | nil => rfl
  | cons e entries ih =>
    obtain ⟨key, entry⟩ := e
    by_cases hk : key = location
    · have hb : (other == key) = false := by simpa [hk] using h
      rw [List.filter_cons_of_neg (by simpa using hk), ih, List.lookup_cons, hb]
    · rw [List.filter_cons_of_pos (by simpa using hk), List.lookup_cons, List.lookup_cons, ih]

theorem get?_put_of_ne (t : FileTree) {location other : List String} (entry : Entry)
    (h : other ≠ location) : (t.put location entry).get? other = t.get? other := by
  have hb : (other == location) = false := by simp [h]
  simp only [get?, put, List.lookup_cons, hb]
  rw [lookup_filter_ne h]

/-! ### Walking a path -/

/-- The most bytes of a name. -/
def nameLimit : Nat := 255

/-- The most bytes of a path. -/
def pathLimit : Nat := 4095

/-- The location one step up.  The root lies in itself, and what is above the working directory is
told by counting the steps up. -/
def above (location : List String) : List String :=
  if location = ["/"] then location
  else if isBase location then ".." :: location
  else location.dropLast

/-- The entry at a location, which may be missing. -/
def entryOr (t : FileTree) (location : List String) : Except OsError Entry :=
  match t.get? location with
  | none => .error .notFound
  | some entry => .ok entry

/-- Looks a name up in a directory. -/
def lookUp (t : FileTree) (here : List String) (name : String) : Except OsError Entry :=
  if name.utf8ByteSize > nameLimit then .error .nameTooLong else t.entryOr (here ++ [name])

/-- Walks the steps of a path from a directory.  The last name is looked up, but what is made of a
refusal there is left to the operation. -/
def walk (t : FileTree) (insists : Bool) : List String → List String → Except OsError Place
  | here, [] => .ok ⟨here, t.entryOr here, true⟩
  | here, step :: rest =>
    if step = "." then walk t insists here rest
    else if step = ".." then walk t insists (above here) rest
    else if rest = [] then .ok ⟨here ++ [step], t.lookUp here step, insists⟩
    else
      match t.lookUp here step with
      | .error e => .error e
      | .ok (.file _ _) => .error .notADirectory
      | .ok (.directory _) => walk t insists (here ++ [step]) rest

/-- Where a path leads. -/
def locate (t : FileTree) (path : String) : Except OsError Place :=
  if path = "" then .error .notFound
  else if '\x00' ∈ path.toList then .error .nulInName
  else if path.utf8ByteSize > pathLimit then .error .nameTooLong
  else
    t.walk (Path.endsInSlash path) (if Path.isAbsolute path then ["/"] else []) (Path.steps path)

/-- The entry that a path leads to. -/
def entryAt (t : FileTree) (path : String) : Except OsError Entry := do
  let place ← t.locate path
  match ← place.entry with
  | .directory mode => return .directory mode
  | .file mode content =>
    if place.insists then throw .notADirectory else return .file mode content

/-- Something stands at the path. -/
def exists? (t : FileTree) (path : String) : Bool := (t.entryAt path).isOk

/-- A directory stands at the path. -/
def isDirectory (t : FileTree) (path : String) : Bool :=
  match t.entryAt path with
  | .ok (.directory _) => true
  | _ => false

/-- The permission bits at a path. -/
def mode? (t : FileTree) (path : String) : Option Nat :=
  match t.entryAt path with
  | .ok (.directory mode) => some mode
  | .ok (.file mode _) => some mode
  | .error _ => none

/-! ### Reading -/

/-- Opens for reading, which a directory allows; the content is then read or refused. -/
def open? (t : FileTree) (path : String) : Except OsError (Except OsError (List UInt8)) := do
  match ← t.entryAt path with
  | .directory _ => return .error .isADirectory
  | .file _ content => return .ok content

/-- The bytes of the file at a path. -/
def read (t : FileTree) (path : String) : Except OsError (List UInt8) :=
  match t.open? path with
  | .ok content => content
  | .error e => .error e

/-- The text of the file at a path, which must be UTF-8. -/
def readText (t : FileTree) (path : String) : Except OsError String :=
  match t.read path with
  | .error e => .error e
  | .ok content =>
    match Text.ofUtf8? content with
    | some text => .ok (String.ofList text)
    | none => .error .notText

/-! ### Writing -/

/-- Opens a file for reading and appending; a missing one is made, empty and with the given mode.
Returns its location, mode and content.  No directory can be opened so, nor a path that insists on
one, whatever its last name. -/
def openOrCreate (t : FileTree) (path : String) (mode : Nat) :
    Except OsError (List String × Nat × List UInt8) := do
  let place ← t.locate path
  if place.insists then throw .isADirectory
  match place.entry with
  | .error .notFound => return (place.location, mode, [])
  | .error e => throw e
  | .ok (.directory _) => throw .isADirectory
  | .ok (.file mode content) => return (place.location, mode, content)

/-- Gives the file at a path the given content; a missing file is made with the given mode. -/
def write (t : FileTree) (path : String) (mode : Nat) (content : List UInt8) :
    Except OsError FileTree := do
  let (location, mode, _) ← t.openOrCreate path mode
  return t.put location (.file mode content)

/-- Removes the file at a path. -/
def remove (t : FileTree) (path : String) : Except OsError FileTree := do
  let place ← t.locate path
  match ← place.entry with
  | .directory _ => throw .isADirectory
  | .file _ _ =>
    if place.insists then throw .notADirectory else return t.erase place.location

/-! ### Directories -/

/-- Makes one directory. -/
def makeDirectory (t : FileTree) (path : String) (mode : Nat) : Except OsError FileTree := do
  let place ← t.locate path
  match place.entry with
  | .ok _ => throw .alreadyExists
  | .error .notFound => return t.put place.location (.directory mode)
  | .error e => throw e

/-- Makes the first directory of a list of ancestors, and before it those that it lies in.  What
was made before a refusal stays. -/
def makeDirectories (t : FileTree) (mode : Nat) : List String → Option OsError × FileTree
  | [] => (none, t)
  | path :: outer =>
    match t.makeDirectory path mode with
    | .ok made => (none, made)
    | .error .notFound =>
      match makeDirectories t mode outer with
      | (some e, made) => (some e, made)
      | (none, made) =>
        match made.makeDirectory path mode with
        | .ok whole => (none, whole)
        | .error e => (if made.isDirectory path then none else some e, made)
    | .error e => (if t.isDirectory path then none else some e, t)

end FileTree

end JumpHost
