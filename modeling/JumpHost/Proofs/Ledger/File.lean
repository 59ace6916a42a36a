/-
**A ledger file over time.**

A ledger is looked at through two doors: a reader opens the file as it is, and a writer makes the
directory and the file if they are missing, and then reads and appends.  A ledger *stands* at a path
if both doors open and lead to the same bytes; nothing else is asked of the tree of files.  Every
operation on a ledger that stands succeeds, acts on its bytes alone, and leaves a ledger that
stands, so a whole run can be followed on the bytes.

Main definitions:

* `JumpHost.Ledger.Stands` — **a ledger stands at a path**, with the bytes of its file or without a
  file;
* `JumpHost.Ledger.bytesAt` — the bytes of the ledger at a path, none if it is missing.

Main results:

* `JumpHost.Ledger.stands_empty`, `JumpHost.Ledger.stands_home` — a missing file and a file of any
  bytes are ledgers that stand;
* `JumpHost.Ledger.Stands.load`, `JumpHost.Ledger.Stands.findAll`, `JumpHost.Ledger.Stands.find` —
  readers see the records of the bytes;
* `JumpHost.Ledger.Stands.update` — **writers act on the bytes that readers see**, and a reader
  sees next what they left;
* `JumpHost.Ledger.exists_of_update`, `JumpHost.Ledger.exists_io_of_update` — what a writer has done
  that succeeded, and why one failed.
-/

import JumpHost.Ledger.Trust
import JumpHost.Proofs.Files.Tree
import JumpHost.Proofs.Ledger.Lines

set_option autoImplicit false

namespace JumpHost.Ledger

/-- What opening for reading gives: the bytes of the file, or that there is none. -/
def seen : Option (List UInt8) → Except OsError (Except OsError (List UInt8))
  | none => .error .notFound
  | some bytes => .ok (.ok bytes)

/-- **A ledger stands at a path**: its directory is there or can be made, which does not change
what a reader sees, and then the file can be opened for appending. -/
structure Stands (t : FileTree) (path : String) (file? : Option (List UInt8)) : Prop where
  read : t.open? path = seen file?
  directory : (ensureDirectory t path).1 = .ok ()
  readMade : (ensureDirectory t path).2.open? path = seen file?
  writable : ∃ opened, (ensureDirectory t path).2.openOrCreate path 0o600 = .ok opened

/-- The bytes of the ledger at a path, none if it is missing. -/
def bytesAt (t : FileTree) (path : String) : List UInt8 :=
  match t.open? path with
  | .ok (.ok bytes) => bytes
  | _ => []

/-! ### The directory -/

/-- Once its directory was made, a ledger needs no other. -/
theorem ensureDirectory_of_exists {t made u : FileTree} {path : String}
    (h : ensureDirectory t path = (.ok (), made))
    (hkeep : ∀ p, made.exists? p = true → u.exists? p = true) :
    ensureDirectory u path = (.ok (), u) := by
  unfold ensureDirectory at h ⊢
  cases hp : Path.parent? path with
  | none => rfl
  | some parent =>
    rw [hp] at h
    simp only at h ⊢
    split at h
    · -- the directory was there already
      rename_i hd
      cases h
      rw [if_pos (hd.imp_right (hkeep parent))]
    · -- it has been made, so it is there now
      rename_i hd
      have hne : parent ≠ "" := fun e => hd (Or.inl e)
      split at h
      · rename_i made' hm
        cases h
        have hanc : ∃ outer, Path.ancestors parent = parent :: outer := by
          rw [Path.ancestors, if_neg hne]
          split
          · exact ⟨[], rfl⟩
          · exact ⟨_, rfl⟩
        obtain ⟨outer, hanc⟩ := hanc
        rw [hanc] at hm
        rw [if_pos (Or.inr (hkeep parent (FileTree.exists?_makeDirectories hm)))]
      · cases h

/-- Where the directory is there, both doors lead to the same place. -/
theorem stands_of_ensureDirectory {t : FileTree} {path : String} {file? : Option (List UInt8)}
    {opened : List String × Nat × List UInt8} (hd : ensureDirectory t path = (.ok (), t))
    (hr : t.open? path = seen file?) (ho : t.openOrCreate path 0o600 = .ok opened) :
    Stands t path file? where
  read := hr
  directory := by rw [hd]
  readMade := by rw [hd, hr]
  writable := ⟨opened, by rw [hd, ho]⟩

/-- In an empty tree of files a ledger stands below a directory that is still to be made. -/
theorem stands_empty : Stands ⟨[]⟩ ".ssh/known_hosts" none := by
  have hd : ensureDirectory ⟨[]⟩ ".ssh/known_hosts" =
      (.ok (), ⟨[([".ssh"], .directory 0o700)]⟩) := by
    have hp : Path.parent? ".ssh/known_hosts" = some ".ssh" := rfl
    have ha : Path.ancestors ".ssh" = [".ssh"] := by decide +kernel
    simp only [ensureDirectory, hp, ha]
    rfl
  exact
    { read := rfl
      directory := by rw [hd]
      readMade := by
        rw [hd]
        rfl
      writable := by
        rw [hd]
        exact ⟨([".ssh", "known_hosts"], 0o600, []), rfl⟩ }

/-- A tree of files with a ledger in it. -/
def home (bytes : List UInt8) : FileTree :=
  ⟨[([".ssh"], .directory 0o700), ([".ssh", "known_hosts"], .file 0o600 bytes)]⟩

/-- A file stands as a ledger whatever bytes it holds. -/
theorem stands_home (bytes : List UInt8) : Stands (home bytes) ".ssh/known_hosts" (some bytes) :=
  stands_of_ensureDirectory rfl rfl rfl

namespace Stands

variable {t : FileTree} {path : String} {file? : Option (List UInt8)}

/-! ### Readers -/

theorem bytesAt (h : Stands t path file?) : Ledger.bytesAt t path = file?.getD [] := by
  rw [Ledger.bytesAt, h.read]
  cases file? <;> rfl

theorem load (h : Stands t path file?) : Ledger.load t path = .ok (records (file?.getD [])) := by
  rw [Ledger.load, h.read]
  cases file? with
  | none =>
    change _ = Except.ok (records [])
    rw [records_nil]
    rfl
  | some bytes => rfl

theorem findAll (h : Stands t path file?) (host : String) :
    Ledger.findAll t path host = .ok (recordsOf (file?.getD []) host) := by
  rw [Ledger.findAll, h.load]
  rfl

theorem find (h : Stands t path file?) (host : String) :
    Ledger.find t path host = .ok (recordsOf (file?.getD []) host).head? := by
  rw [Ledger.find, h.findAll]
  rfl

/-! ### Writers -/

/-- What a writer opens is what a reader sees. -/
theorem eq_of_openOrCreate (h : Stands t path file?) {location : List String} {mode : Nat}
    {bytes : List UInt8}
    (ho : (ensureDirectory t path).2.openOrCreate path 0o600 = .ok (location, mode, bytes)) :
    bytes = file?.getD [] := by
  have hr := h.readMade
  rcases FileTree.open?_of_openOrCreate ho with hb | ⟨hb, rfl⟩
  · rw [hr] at hb
    cases file? with
    | none => cases hb
    | some b =>
      cases hb
      rfl
  · rw [hr] at hb
    cases file? with
    | none => rfl
    | some b => cases hb

/-- **Writers act on the bytes that readers see**, and leave a ledger that stands. -/
theorem update {α : Type} (h : Stands t path file?) (f : List UInt8 → α × List UInt8) :
    ∃ u, Ledger.update t path f = (.ok (f (file?.getD [])).1, u) ∧
      Stands u path (some (f (file?.getD [])).2) := by
  have hd : ensureDirectory t path = (.ok (), (ensureDirectory t path).2) :=
    Prod.ext h.directory rfl
  obtain ⟨⟨location, mode, bytes⟩, ho⟩ := h.writable
  have hbytes := h.eq_of_openOrCreate ho
  generalize (ensureDirectory t path).2 = made at hd ho
  subst hbytes
  obtain ⟨hn, hagain, hread⟩ := FileTree.openOrCreate_put ho (f (file?.getD [])).2
  refine ⟨made.put location (.file mode (f (file?.getD [])).2), ?_, ?_⟩
  · simp only [Ledger.update, hd, ho]
  · exact stands_of_ensureDirectory
      (ensureDirectory_of_exists hd fun p hp => FileTree.exists?_put hn hp) hread hagain

end Stands

/-- A writer that succeeds has acted on some bytes, and left what it made of them.  If a ledger
stood there, they are its bytes. -/
theorem exists_of_update {α : Type} {t u : FileTree} {path : String} {result : α}
    {f : List UInt8 → α × List UInt8} (h : update t path f = (.ok result, u)) :
    ∃ bytes, (f bytes).1 = result ∧ u.open? path = .ok (.ok (f bytes).2) ∧
      ∀ file?, Stands t path file? → bytes = file?.getD [] := by
  unfold update at h
  split at h
  · cases h
  · rename_i made hd
    split at h
    · cases h
    · rename_i location mode bytes ho
      cases h
      refine ⟨bytes, rfl, (FileTree.openOrCreate_put ho _).2.2, fun file? hs => ?_⟩
      exact hs.eq_of_openOrCreate (by rw [hd]; exact ho)

/-- A writer fails for what the system refuses, and for nothing else. -/
theorem exists_io_of_update {α : Type} {t u : FileTree} {path : String} {e : LedgerError}
    {f : List UInt8 → α × List UInt8} (h : update t path f = (.error e, u)) :
    ∃ reason, e = .io reason := by
  unfold update at h
  split at h
  · -- the directory could not be made
    rename_i hd
    cases h
    unfold ensureDirectory at hd
    split at hd
    · cases hd
    · split at hd
      · cases hd
      · split at hd
        · cases hd
        · cases hd
          exact ⟨_, rfl⟩
  · split at h
    · cases h
      exact ⟨_, rfl⟩
    · cases h

end JumpHost.Ledger
