/-
**The history of a ledger.**

A ledger is a log: whatever is done to it, by readers and by writers and in whatever order, its
bytes, its lines and its records are only ever extended.  A line that carries no record stays where
it is like any other.  A plain record that is written is exactly one more record for every later
reader, however the file ended before.

Main definitions:

* `JumpHost.Ledger.Operation` — what can be done to a ledger;
* `JumpHost.Ledger.after` — the tree of files after some operations;
* `JumpHost.Ledger.Extends` — the bytes and the lines of one ledger continue those of another.

Main results:

* `JumpHost.Ledger.Stands.after` — a ledger stands after any operations;
* `JumpHost.Ledger.extends_grown` — and continues what it was;
* `JumpHost.Ledger.append_only` — **the log is append-only, and every plain record that is written
  is read**.
-/

import JumpHost.Proofs.Ledger.File

set_option autoImplicit false

namespace JumpHost.Ledger

/-- What can be done to a ledger. -/
inductive Operation where
  | append (r : HostRecord)
  | consult (host : String) (presented : HostKey)
  | find (host : String)
  | findAll (host : String)
  | load

/-- The tree of files after an operation on the ledger at a path. -/
def Operation.after (path : String) (t : FileTree) : Operation → FileTree
  | append r => (add t path r).2
  | consult host presented => (consultAt t path host presented).2
  | find _ | findAll _ | load => t

/-- The tree of files after some operations on the ledger at a path. -/
def after (path : String) (t : FileTree) (ops : List Operation) : FileTree :=
  ops.foldl (Operation.after path) t

/-- The file of a ledger after an operation, if it is there. -/
def Operation.grown (file? : Option (List UInt8)) : Operation → Option (List UInt8)
  | append r => some (appended (file?.getD []) r)
  | consult host presented => some (Ledger.consult (file?.getD []) host presented).2
  | find _ | findAll _ | load => file?

/-! ### What an operation does -/

variable {t : FileTree} {path : String} {file? : Option (List UInt8)}

theorem Stands.add (h : Stands t path file?) (r : HostRecord) :
    ∃ u, Ledger.add t path r = (.ok (), u) ∧ Stands u path (some (appended (file?.getD []) r)) :=
  h.update fun bytes => ((), appended bytes r)

theorem Stands.consultAt (h : Stands t path file?) (host : String) (presented : HostKey) :
    ∃ u, Ledger.consultAt t path host presented =
        (.ok (consult (file?.getD []) host presented).1, u) ∧
      Stands u path (some (consult (file?.getD []) host presented).2) :=
  h.update fun bytes => consult bytes host presented

theorem Stands.operation (h : Stands t path file?) (op : Operation) :
    Stands (op.after path t) path (op.grown file?) := by
  cases op with
  | append r =>
    obtain ⟨u, hu, hs⟩ := h.add r
    rw [Operation.after, hu]
    exact hs
  | consult host presented =>
    obtain ⟨u, hu, hs⟩ := h.consultAt host presented
    rw [Operation.after, hu]
    exact hs
  | find host => exact h
  | findAll host => exact h
  | load => exact h

theorem Stands.after (h : Stands t path file?) (ops : List Operation) :
    Stands (after path t ops) path (ops.foldl Operation.grown file?) := by
  induction ops generalizing t file? with
  | nil => exact h
  | cons op ops ih => exact ih (h.operation op)

/-! ### Growth -/

/-- The bytes and the lines of one ledger continue those of another. -/
structure Extends (before after : List UInt8) : Prop where
  bytes : before <+: after
  lines : lines before <+: lines after

theorem Extends.refl (bytes : List UInt8) : Extends bytes bytes :=
  ⟨List.prefix_refl _, List.prefix_refl _⟩

theorem Extends.trans {a b c : List UInt8} (h : Extends a b) (h' : Extends b c) : Extends a c :=
  ⟨h.bytes.trans h'.bytes, h.lines.trans h'.lines⟩

/-- The records are continued with the lines. -/
theorem Extends.records {a b : List UInt8} (h : Extends a b) : records a <+: records b := by
  rw [records_eq_filterMap_lines, records_eq_filterMap_lines]
  exact h.lines.filterMap _

theorem extends_appended (bytes : List UInt8) (r : HostRecord) :
    Extends bytes (appended bytes r) where
  bytes := isPrefixOf_appended bytes r
  lines := by
    rw [lines_appended]
    exact List.prefix_append _ _

theorem extends_consult (bytes : List UInt8) (host : String) (presented : HostKey) :
    Extends bytes (consult bytes host presented).2 := by
  unfold consult
  split
  · exact extends_appended _ _
  · exact Extends.refl _

/-- An operation continues what was there. -/
theorem extends_grown (op : Operation) (file? : Option (List UInt8)) :
    Extends (file?.getD []) ((op.grown file?).getD []) := by
  cases op with
  | append r => exact extends_appended _ r
  | consult host presented => exact extends_consult _ host presented
  | find host => exact Extends.refl _
  | findAll host => exact Extends.refl _
  | load => exact Extends.refl _

theorem extends_foldl_grown (ops : List Operation) (file? : Option (List UInt8)) :
    Extends (file?.getD []) ((ops.foldl Operation.grown file?).getD []) := by
  induction ops generalizing file? with
  | nil => exact Extends.refl _
  | cons op ops ih => exact (extends_grown op file?).trans (ih _)

/-! ### The log -/

/-- A consultation that learns writes the record of the host. -/
theorem consult_of_learned {bytes : List UInt8} {host : String} {presented : HostKey}
    (h : (consult bytes host presented).1 = .learned) :
    (consult bytes host presented).2 = appended bytes ⟨host, presented⟩ := by
  unfold consult at h ⊢
  split at h
  · rfl
  · rename_i hne
    exact absurd h hne

/-- **The log is append-only, and every plain record that is written is read.** -/
theorem append_only (h : Stands t path file?) (earlier later : List Operation) :
    let s := after path t earlier
    let u := after path s later
    ∃ rs us, load s path = .ok rs ∧ load u path = .ok us ∧ rs <+: us ∧
      bytesAt s path <+: bytesAt u path ∧
      lines (bytesAt s path) <+: lines (bytesAt u path) ∧
      (∀ r, ∃ v, add s path r = (.ok (), v) ∧
        (r.IsPlain → load v path = .ok (rs ++ [r]) ∧
          (bytesAt v path).getLast? = some lineBreak)) ∧
      ∀ host presented, ∃ outcome v, consultAt s path host presented = (.ok outcome, v) ∧
        (outcome = .learned → HostRecord.IsPlain ⟨host, presented⟩ →
          load v path = .ok (rs ++ [⟨host, presented⟩]) ∧
            (bytesAt v path).getLast? = some lineBreak) := by
  intro s u
  have hs := h.after earlier
  have hu := hs.after later
  have hext := extends_foldl_grown later (earlier.foldl Operation.grown file?)
  refine ⟨_, _, hs.load, hu.load, hext.records, ?_, ?_, ?_, ?_⟩
  · rw [hs.bytesAt, hu.bytesAt]
    exact hext.bytes
  · rw [hs.bytesAt, hu.bytesAt]
    exact hext.lines
  · intro r
    obtain ⟨v, hv, hsv⟩ := hs.add r
    refine ⟨v, hv, fun hr => ?_⟩
    rw [hsv.load, hsv.bytesAt, Option.getD_some, records_appended hr]
    exact ⟨rfl, getLast?_appended _ r⟩
  · intro host presented
    obtain ⟨v, hv, hsv⟩ := hs.consultAt host presented
    refine ⟨_, v, hv, fun hlearned hr => ?_⟩
    rw [hsv.load, hsv.bytesAt, Option.getD_some, consult_of_learned hlearned, records_appended hr]
    exact ⟨rfl, getLast?_appended _ _⟩

/-- A record is added behind an unfinished line that breaks off within a character. -/
theorem append_only_unfinished :
    let r : HostRecord := ⟨"a", ⟨"ssh-rsa", [7]⟩⟩
    ∃ v, add (home [0x61, 0x20, 0x62, 0x0D, 0xE2, 0x82]) ".ssh/known_hosts" r = (.ok (), v) ∧
      load v ".ssh/known_hosts" = .ok [r] := by
  intro r
  have hstands := stands_home [0x61, 0x20, 0x62, 0x0D, 0xE2, 0x82]
  obtain ⟨rs, -, hrs, -, -, -, -, hadd, -⟩ := append_only hstands [] []
  have hnone : rs = [] := by
    have hload := Except.ok.inj (hrs.symm.trans hstands.load)
    rw [hload, Option.getD_some]
    decide +kernel
  obtain ⟨v, hv, hplain⟩ := hadd r
  have hr : r.IsPlain := by decide +kernel
  refine ⟨v, hv, ?_⟩
  rw [(hplain hr).1, hnone]
  rfl

end JumpHost.Ledger
