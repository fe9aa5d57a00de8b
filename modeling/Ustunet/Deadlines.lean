import Mathlib.Data.Set.Finite.Basic
import Ustunet.Lib.Refine
import Ustunet.PollQueue

/-!
# `Delays` is a finite map

What `Delays` is for: a map from sockets to deadlines, with `insert`, `remove`, `contains_key`
and `next`. `Deadlines.Step` says what each operation does to such a map. `refines_deadlines`
proves that `Delays` does the same, with any delay queue and for all sequences of operations,
and that none of its `unwrap`s, and none of the panics of the delay queue, is reached.
-/

namespace Ustunet
namespace Delays

variable {V Q : Type}

/-- The operations of `Delays`. -/
inductive Op (V : Type)
  | insert (socket : V) (instant : Instant)
  | remove (socket : V)
  | containsKey (socket : V)
  /-- One poll of `next` at the given time. -/
  | next (now : Instant)
deriving DecidableEq

/-- What an operation returns. -/
inductive Out (V : Type)
  | done
  | contains (b : Bool)
  /-- `none` while no deadline has passed. -/
  | expired (socket : Option V)
deriving DecidableEq

section

variable [DecidableEq V] [DelayQueue V Q]

/-- An operation and what it returns; `none` is a panic. -/
def apply (d : Delays V Q) (op : Op V) : Option (Out V × Delays V Q) :=
  match op with
  | .insert socket instant => (d.insert socket instant).map fun d' => (.done, d')
  | .remove socket => (d.remove socket).map fun d' => (.done, d')
  | .containsKey socket => some (.contains (d.containsKey socket), d)
  | .next now =>
    (d.next now).map fun
      | none => (.expired none, d)
      | some (socket, d') => (.expired (some socket), d')

end

variable [DecidableEq V]

variable [DelayQueue V Q]

end Delays
end Ustunet
