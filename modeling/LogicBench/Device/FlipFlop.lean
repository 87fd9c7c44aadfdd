/-!
# Flip-flops

A flip-flop stores its data input when its clock input rises. A high set input stores one and a
high clear input stores zero whatever the clock does, and set wins over clear.
-/

namespace LogicBench

/-- The stored bit, and the level of the clock input at the last latching. -/
structure FlipFlop where
  stored : Bool := false
  lastClock : Bool := false
  deriving DecidableEq, Repr

namespace FlipFlop

/-- The flip-flop after it has seen the given levels. The clock level is remembered in every case,
so a rise hidden by set or clear is not seen again later. -/
def latch (cell : FlipFlop) (data clock set clear : Bool) : FlipFlop where
  stored :=
    if set then true
    else if clear then false
    else if clock && !cell.lastClock then data
    else cell.stored
  lastClock := clock

def reset (_cell : FlipFlop) : FlipFlop :=
  {}

@[simp] theorem lastClock_latch (cell : FlipFlop) (data clock set clear : Bool) :
    (cell.latch data clock set clear).lastClock = clock := rfl

end FlipFlop

end LogicBench
