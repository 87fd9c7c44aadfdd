/-!
# Signals

A wire carries a level. Between two cycles an output may also show that its level has just
changed, and which way; everything that computes with signals reads their level only.
-/

namespace LogicBench

/-- What an output shows: a steady level, or a level with the change that led to it. -/
inductive Signal where
  | low
  | high
  | rising
  | falling
  deriving DecidableEq, Repr, Inhabited

namespace Signal

/-- Whether the level is high, edges included. -/
def isHigh : Signal → Bool
  | high | rising => true
  | low | falling => false

def isEdge : Signal → Bool
  | rising | falling => true
  | low | high => false

def ofLevel (isHigh : Bool) : Signal :=
  if isHigh then high else low

/-- The level alone, with any edge mark removed. -/
def level (signal : Signal) : Signal :=
  ofLevel signal.isHigh

/-- What an output shows that showed `before` and is now at the given level. -/
def transition (before : Signal) (nowHigh : Bool) : Signal :=
  match before.isHigh, nowHigh with
  | false, true => rising
  | true, false => falling
  | _, steady => ofLevel steady

def word : Signal → String
  | low => "LOW"
  | high => "HIGH"
  | rising => "RISING"
  | falling => "FALLING"

@[simp] theorem isHigh_ofLevel (b : Bool) : (ofLevel b).isHigh = b := by
  cases b <;> rfl

@[simp] theorem isHigh_transition (before : Signal) (nowHigh : Bool) :
    (before.transition nowHigh).isHigh = nowHigh := by
  cases before <;> cases nowHigh <;> rfl

end Signal

end LogicBench
