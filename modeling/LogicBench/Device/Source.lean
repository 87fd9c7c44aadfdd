/-!
# Sources

The devices without inputs: a switch keeps the state it is given, a clock toggles after every
half-period, a generator repeats a waveform.
-/

namespace LogicBench

/-- A source that is set from outside. -/
structure Switch where
  state : Bool
  deriving DecidableEq, Repr

def Switch.set (_switch : Switch) (state : Bool) : Switch :=
  ⟨state⟩

/-- A source that toggles each time its countdown runs out. -/
structure Clock where
  halfPeriod : Nat
  countdown : Nat
  isHigh : Bool
  deriving DecidableEq, Repr

namespace Clock

/-- The longest half-period, the largest 32-bit value. -/
def maxHalfPeriod : Nat := 4294967295

/-- A clock about to start; its half-period is at least one cycle. -/
def ofHalfPeriod (halfPeriod : Nat) : Clock :=
  ⟨max halfPeriod 1, max halfPeriod 1, false⟩

def tick (clock : Clock) : Clock :=
  if clock.countdown ≤ 1 then
    { clock with countdown := clock.halfPeriod, isHigh := !clock.isHigh }
  else
    { clock with countdown := clock.countdown - 1 }

def reset (clock : Clock) : Clock :=
  { clock with countdown := clock.halfPeriod, isHigh := false }

@[simp] theorem halfPeriod_tick (clock : Clock) : clock.tick.halfPeriod = clock.halfPeriod := by
  unfold tick
  split <;> rfl

end Clock

/-- A source that repeats a waveform; `cursor` is the place of its next bit. -/
structure Generator where
  waveform : List Bool
  cursor : Nat
  deriving DecidableEq, Repr

namespace Generator

def ofWaveform (waveform : List Bool) : Generator :=
  ⟨waveform, 0⟩

def bit? : Char → Option Bool
  | '0' => some false
  | '1' => some true
  | _ => none

/-- The generator for a waveform written as bits; there must be at least one. -/
def ofBits? (bits : String) : Option Generator :=
  if bits.isEmpty then none else (bits.toList.mapM bit?).map ofWaveform

def bit (generator : Generator) : Bool :=
  generator.waveform.getD generator.cursor false

/-- The generator after its next bit; the waveform starts over at its end. -/
def tick (generator : Generator) : Generator :=
  { generator with cursor := (generator.cursor + 1) % generator.waveform.length }

def reset (generator : Generator) : Generator :=
  { generator with cursor := 0 }

@[simp] theorem waveform_tick (generator : Generator) :
    generator.tick.waveform = generator.waveform := rfl

end Generator

end LogicBench
