import Countinghouse.Operation
import Countinghouse.Store.Fault

/-!
# Simulated surroundings

A `Simulation` meets the needs of operations with no help from outside: a store over a
state, a clock that moves on with every need it is asked about, numbered identifiers and
salts, and a log that keeps every event.
-/

namespace Countinghouse

/-- The state of simulated surroundings. -/
structure Simulation (State : Type) where
  store : State
  now : Instant
  /-- The number of identifiers and salts handed out so far. -/
  serial : Nat
  /-- The events reported so far, latest first. -/
  events : List Event

namespace Simulation

variable {State : Type}

/-- The same surroundings some time later. -/
def after (nanos : Int) (simulation : Simulation State) : Simulation State :=
  { simulation with now := ⟨simulation.now.nanos + nanos⟩ }

/-- The same surroundings with one more number used up. -/
def numbered (simulation : Simulation State) : Simulation State :=
  { simulation with serial := simulation.serial + 1 }

/-- The identifier with a number. -/
def idOf (serial : Nat) : Uuid := Uuid.ofRandomBits serial

/-- The salt with a number. -/
def saltOf (serial : Nat) : List UInt8 :=
  (List.range 16).map fun place => UInt8.ofNat (serial / Nat.pow 256 place)

/-- Meets the needs of operations. Reading the clock takes ten microseconds, and a call of
the store two milliseconds. -/
def surroundings (backend : Instant → Backend State)
    (ping : State → Except SqlFailure Unit × State) : Surroundings (Simulation State) where
  answer
    | .store call, simulation =>
      let (reply, store) := backend simulation.now call simulation.store
      (reply, { simulation with store }.after 2000000)
    | .clock, simulation => (simulation.now, simulation.after 10000)
    | .freshId, simulation => (idOf simulation.serial, simulation.numbered)
    | .freshSalt, simulation => (saltOf simulation.serial, simulation.numbered)
    | .report event, simulation =>
      ((), { simulation with events := event :: simulation.events })
    | .ping, simulation =>
      let (alive, store) := ping simulation.store
      (alive, { simulation with store })

end Simulation

end Countinghouse
