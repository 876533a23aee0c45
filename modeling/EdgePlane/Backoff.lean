import EdgePlane.Dict
import EdgePlane.Duration

/-!
# Retry delays

Delays that grow like the Fibonacci numbers up to a limit, and the table of them that is kept for the
objects whose passes fail.
-/

namespace EdgePlane

/-- A sequence of delays in seconds: each is the sum of the two before it, at most `most`. -/
structure Backoff where
  least : Nat
  previous : Nat
  current : Nat
  most : Nat
  deriving Repr, DecidableEq

namespace Backoff

/-- A sequence that starts with `least` twice. -/
def start (least most : Nat) : Backoff := ⟨least, 0, least, most⟩

/-- The sequence for failed passes: 5 seconds at first and 300 at most. -/
def standard : Backoff := start 5 300

/-- The sequence without its first delay. -/
def advance (b : Backoff) : Backoff :=
  { b with previous := b.current, current := min (b.previous + b.current) b.most }

/-- The sequence from its start. -/
def reset (b : Backoff) : Backoff := { b with previous := 0, current := b.least }

end Backoff

/-- The failures of one object since its last success: the delays to come, and a counter of 32 bits. -/
structure Retry where
  backoff : Backoff
  errors : UInt32
  deriving Repr, DecidableEq

/-- The retry of an object that has not failed. -/
def Retry.fresh : Retry := ⟨.standard, 0⟩

/-- The retries of all objects that have failed, by key. -/
abbrev Retries := Dict String Retry

namespace Retries

/-- The entry of a key, a fresh one if it has none. -/
def entry (retries : Retries) (key : String) : Retry := (retries.get? key).getD .fresh

/-- The delay of a key and its number of failures; the next delay will be the one after it. -/
def delay (retries : Retries) (key : String) : (Duration × UInt32) × Retries :=
  let e := retries.entry key
  ((Duration.ofSeconds e.backoff.current, e.errors),
    retries.insert key { e with backoff := e.backoff.advance })

/-- One more failure of a key. -/
def countError (retries : Retries) (key : String) : Retries :=
  let e := retries.entry key
  retries.insert key { e with errors := e.errors + 1 }

/-- A success of a key. -/
def settle (retries : Retries) (key : String) : Retries :=
  match retries.get? key with
  | none => retries
  | some e => retries.insert key ⟨e.backoff.reset, 0⟩

/-- A key without an object. -/
def forget (retries : Retries) (key : String) : Retries := retries.erase key

end Retries

end EdgePlane
