/-
**The contents of a ledger.**

A ledger is a file that is only ever appended to.  Its bytes may be anything: the lines that carry
records are read, and all others stay where they are.  Lines are separated as bytes and then read
as text, which is the same as reading the whole file as text, because no character but the line
break contains its byte.

Trust on first use needs one operation, which looks a host up and, if the host is unknown, appends
the key that it presents.

Main definitions:

* `JumpHost.Ledger.records`, `JumpHost.Ledger.recordsOf` — the records, and those of a host;
* `JumpHost.Ledger.appended` — the contents with a record behind them;
* `JumpHost.Ledger.consult` — looks a host up, or learns its key.

Main statements:

* `JumpHost.Ledger.isPrefixOf_appended` — appending keeps what was there.
-/

import JumpHost.HostKey.Pattern
import JumpHost.Ledger.Line

set_option autoImplicit false

namespace JumpHost.Ledger

/-- The byte of a line break. -/
def lineBreak : UInt8 := 10

/-- The records of a ledger, in the order of its lines. -/
def records (contents : List UInt8) : List HostRecord :=
  (contents.splitOn lineBreak).filterMap fun line => HostRecord.ofLine? (Text.ofUtf8Lossy line)

/-- The records of a host, in the order of their lines. -/
def recordsOf (contents : List UInt8) (host : String) : List HostRecord :=
  (records contents).filter fun r => HostPattern.covers r.pattern host

/-- The contents end where a line begins. -/
def atLineStart (contents : List UInt8) : Bool :=
  contents.getLast?.all (· == lineBreak)

/-- The contents with a record on a line of its own behind them. -/
def appended (contents : List UInt8) (r : HostRecord) : List UInt8 :=
  contents ++ (if atLineStart contents then [] else [lineBreak]) ++
    (Text.bytesOf r.line ++ [lineBreak])

/-- What looking a host up with a presented key gives. -/
inductive Outcome where
  /-- The host was unknown, and its key has been appended. -/
  | learned
  /-- One of the records of the host holds the presented key. -/
  | matched
  /-- The host has records, but none holds the presented key; nothing was written. -/
  | mismatched (expected : HostRecord)
  deriving DecidableEq

/-- The record to report when none of a host's records holds the presented key: the first of the
key's own type, else the first. -/
def expectedOf (known : List HostRecord) (presented : HostKey) : Option HostRecord :=
  (known.find? fun r => r.key.keyType = presented.keyType).or known.head?

/-- What the records of a host say about a presented key. -/
def judge (known : List HostRecord) (presented : HostKey) : Outcome :=
  if known.any fun r => r.key = presented then .matched
  else
    match expectedOf known presented with
    | some expected => .mismatched expected
    | none => .learned

/-- **Looks a host up and, if it is unknown, appends the key that it presents.** -/
def consult (contents : List UInt8) (host : String) (presented : HostKey) :
    Outcome × List UInt8 :=
  match judge (recordsOf contents host) presented with
  | .learned => (.learned, appended contents ⟨host, presented⟩)
  | outcome => (outcome, contents)

theorem isPrefixOf_appended (contents : List UInt8) (r : HostRecord) :
    contents <+: appended contents r := by
  unfold appended
  rw [List.append_assoc]
  exact List.prefix_append _ _

end JumpHost.Ledger
