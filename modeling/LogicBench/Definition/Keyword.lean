import LogicBench.Device.Kind

/-!
# Keywords

The reserved words of a definition: three open its sections, one ends it, the others are types of
device.
-/

namespace LogicBench

inductive Section where
  | devices
  | connect
  | monitor
  deriving DecidableEq, Repr

namespace Section

def keyword : Section → String
  | devices => "DEVICES"
  | connect => "CONNECT"
  | monitor => "MONITOR"

/-- The place of a section in the required order. -/
def rank : Section → Nat
  | devices => 0
  | connect => 1
  | monitor => 2

end Section

inductive Keyword where
  | opening (opened : Section)
  | finish
  | device (type : DeviceType)
  deriving DecidableEq, Repr

namespace Keyword

def text : Keyword → String
  | opening opened => opened.keyword
  | finish => "END"
  | device type => type.keyword

/-- Whether a keyword opens a section or ends the definition. -/
def isSection : Keyword → Bool
  | opening _ | finish => true
  | device _ => false

def ofWord? (word : String) : Option Keyword :=
  if word = "DEVICES" then some (opening .devices)
  else if word = "CONNECT" then some (opening .connect)
  else if word = "MONITOR" then some (opening .monitor)
  else if word = "END" then some finish
  else (DeviceType.ofKeyword? word).map device

end Keyword

end LogicBench
