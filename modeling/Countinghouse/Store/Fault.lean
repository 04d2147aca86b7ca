import Countinghouse.Store.Call

/-!
# Faults around a store

A `Backend` answers calls over a state of its own. `Backend.withFaults` puts a list of
faults in front of it: a fault waits for calls of one kind, lets a number of them pass
and then strikes once. What it does is a `Disruption`: the call fails, or finds
nothing, or something else happens to the store just before it.
-/

namespace Countinghouse

/-- A store as a function from calls to replies over a state. -/
abbrev Backend (State : Type) :=
  (call : StoreCall) → State → Except StoreError call.Reply × State

/-- What happens to a call that a fault strikes. -/
inductive Disruption where
  /-- The call fails and nothing is done. -/
  | fail (error : StoreError)
  /-- The call finds nothing and the store is not asked. -/
  | miss
  /-- Another call is made first, then the call goes on. -/
  | precede (call : StoreCall)
  deriving DecidableEq, Repr

/-- A disruption that waits for a call. -/
structure Fault where
  kind : StoreCall.Kind
  /-- The calls of this kind that still pass unharmed. -/
  skip : Nat
  disruption : Disruption
  deriving DecidableEq, Repr

namespace Fault

/-- The disruption of a call, if any, and the faults that still wait after it. Only the
oldest fault of the call's kind counts the call. -/
def next (kind : StoreCall.Kind) : List Fault → Option Disruption × List Fault
  | [] => (none, [])
  | fault :: rest =>
    if fault.kind = kind then
      match fault.skip with
      | 0 => (some fault.disruption, rest)
      | skip + 1 => (none, { fault with skip } :: rest)
    else
      let (disruption, waiting) := next kind rest
      (disruption, fault :: waiting)

end Fault

namespace Backend

/-- A backend behind a list of faults. -/
def withFaults {State : Type} (backend : Backend State) : Backend (List Fault × State) :=
  fun call (faults, state) =>
    match Fault.next call.kind faults with
    | (none, waiting) =>
      let (reply, after) := backend call state
      (reply, waiting, after)
    | (some (.fail error), waiting) => (.error error, waiting, state)
    | (some .miss, waiting) =>
      match call.nothing? with
      | some reply => (.ok reply, waiting, state)
      | none =>
        let (reply, after) := backend call state
        (reply, waiting, after)
    | (some (.precede other), waiting) =>
      let (_, altered) := backend other state
      let (reply, after) := backend call altered
      (reply, waiting, after)

end Backend

end Countinghouse
