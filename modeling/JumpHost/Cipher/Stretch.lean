/-
**Keys from passphrases by repetition.**

A passphrase becomes a key by work that cannot be saved.  The first way repeats the authentication
code of a salt under the passphrase and adds up all that comes out.  The second way fills a large
memory with mixtures, each made from the one before, and goes through it in an order that only the
mixtures tell.

Main definitions:

* `JumpHost.Stretch.repeated` — the key of the first way;
* `JumpHost.Stretch.MemoryCost`, `JumpHost.Stretch.filled` — the key of the second way.
-/

import JumpHost.Cipher.Salsa
import JumpHost.Digest.Sha2

set_option autoImplicit false

namespace JumpHost.Stretch

/-! ### Repetition -/

/-- The sum of further codes, each of the one before, and of what was added up. -/
def further (k : Digest.Sha2.Keyed) : Nat → List UInt8 → List UInt8 → List UInt8
  | 0, _, sum => sum
  | n + 1, last, sum =>
    let next := k.code last
    further k n next (Bytes.xor sum next)

/-- A piece of a key; the first piece is number one. -/
def piece (k : Digest.Sha2.Keyed) (salt : List UInt8) (rounds number : Nat) : List UInt8 :=
  let first := k.code (salt ++ Bytes.ofNat 4 number)
  further k (rounds - 1) first first

/-- A key of `length` bytes. -/
def repeated (h : Digest.Sha2) (passphrase salt : List UInt8) (rounds length : Nat) : List UInt8 :=
  let k := h.keyed passphrase
  let count := (length + h.size - 1) / h.size
  ((List.range count).flatMap fun i => piece k salt rounds (i + 1)).take length

/-! ### Memory -/

/-- What the second way costs. -/
structure MemoryCost where
  /-- The number of mixtures that are kept, a power of two. -/
  count : Nat
  /-- Half the number of squares of a mixture. -/
  width : Nat
  /-- The number of memories that are filled one after another. -/
  lanes : Nat
  deriving DecidableEq

/-- The squares of a mixture, when the one before the first of them is known. -/
def mixSquares (before : Square) : List Square → List Square
  | [] => []
  | s :: rest =>
    let next := Salsa.core (before.xor s)
    next :: mixSquares next rest

/-- Every other member of a list, from the first or from the second on. -/
def everyOther {α : Type} (fromFirst : Bool) : List α → List α
  | [] => []
  | a :: rest =>
    if fromFirst then a :: everyOther false rest else everyOther true rest

/-- The next mixture: its squares at even places come first. -/
def next (squares : List Square) : List Square :=
  let mixed := mixSquares (squares.getLastD (.ofBytes [])) squares
  everyOther true mixed ++ everyOther false mixed

/-- The number that a mixture tells: the first two words of its last square. -/
def teller (squares : List Square) : Nat :=
  let last := squares.getLastD (.ofBytes [])
  last.w.a.toNat + (last.z.b.toNat <<< 32)

/-- Keeps mixtures, each made from the one before. -/
def fill : Nat → Array (List Square) → List Square → Array (List Square) × List Square
  | 0, memory, squares => (memory, squares)
  | n + 1, memory, squares => fill n (memory.push squares) (next squares)

/-- Goes through the mixtures that are kept. -/
def walk (memory : Array (List Square)) : Nat → List Square → List Square
  | 0, squares => squares
  | n + 1, squares =>
    let kept := memory.getD (teller squares % memory.size) []
    walk memory n (next (List.zipWith Square.xor squares kept))

/-- What a lane makes of its bytes. -/
def lane (cost : MemoryCost) (bytes : List UInt8) : List UInt8 :=
  let squares := (Digest.pieces 63 bytes).map fun piece => Salsa.ofRows (.ofBytes piece)
  let (memory, squares) := fill cost.count #[] squares
  (walk memory cost.count squares).flatMap fun s => (Salsa.toRows s).bytes

/-- A key of `length` bytes. -/
def filled (cost : MemoryCost) (passphrase salt : List UInt8) (length : Nat) : List UInt8 :=
  let laneSize := 128 * cost.width
  let bytes := repeated .bits256 passphrase salt 1 (laneSize * cost.lanes)
  let lanes := (Digest.pieces (laneSize - 1) bytes).flatMap (lane cost)
  repeated .bits256 passphrase lanes 1 length

end JumpHost.Stretch
