import LogicBench.Definition.Diagnostic
import LogicBench.Definition.Keyword

/-!
# Notices

What a run of the program may remark on its way, by importance. A notice is printed on one line
with its level and the part of the program that it comes from.
-/

namespace LogicBench

/-- The importance of a notice, from the most important on. -/
inductive Notice.Level where
  | warn
  | debug
  | trace
  deriving DecidableEq, Repr

/-- A remark on what happens while a definition is read or simulated. -/
inductive Notice where
  | entering (opened : Section)
  | declared (name : String) (type : DeviceType)
  /-- A diagnostic tells nothing that the one before it does not. -/
  | dropped (diagnostic : Diagnostic)
  /-- Connections were lost, so that nothing can be said about inputs without a driver. -/
  | unboundSkipped
  | parsed (devices connections monitors diagnostics : Nat)
  /-- Some combinational devices depend on a feedback loop. -/
  | feedback (devices : Nat)
  | switchSet (name : String) (state : Bool)
  | coldStart (cycles : Nat)
  | settled (passes : Nat)
  /-- A cycle is about to be completed. -/
  | cycleSettled (cycle passes : Nat)
  | sampled (monitors cycle : Nat)
  | notSettled (cycle passes : Nat)
  deriving DecidableEq, Repr

namespace Notice

def Level.name : Level → String
  | .warn => "WARN"
  | .debug => "DEBUG"
  | .trace => "TRACE"

def level : Notice → Level
  | notSettled .. => .warn
  | unboundSkipped | parsed .. | switchSet .. => .debug
  | coldStart .. | cycleSettled .. | sampled .. => .debug
  | entering .. | declared .. | dropped .. | feedback .. | settled .. => .trace

/-- The part of the program that a notice comes from. -/
def target : Notice → String
  | entering .. | declared .. | dropped .. => "logsim_core::dsl::parser"
  | unboundSkipped | parsed .. => "logsim_core::dsl::parser"
  | feedback .. | settled .. => "logsim_core::engine::propagate"
  | switchSet .. | coldStart .. => "logsim_core::engine::simulator"
  | cycleSettled .. | notSettled .. => "logsim_core::engine::simulator"
  | sampled .. => "logsim_core::monitors"

def message : Notice → String
  | entering opened => "entering " ++ opened.keyword ++ " section"
  | declared name type => "declared " ++ name ++ " as " ++ type.keyword
  | dropped diagnostic => "dropping follow-on diagnostic: " ++ diagnostic.headline
  | unboundSkipped => "skipping unbound input check after CONNECT syntax errors"
  | parsed devices connections monitors diagnostics =>
    "parsed " ++ toString devices ++ " device(s), " ++ toString connections ++ " connection(s), " ++
      toString monitors ++ " monitor(s), " ++ toString diagnostics ++ " diagnostic(s)"
  | feedback devices => toString devices ++ " device(s) on or behind feedback loops"
  | switchSet name state => "switch " ++ name ++ " set to " ++ if state then "1" else "0"
  | coldStart cycles => "cold start; running " ++ toString cycles ++ " cycle(s)"
  | settled passes => "settled after " ++ toString passes ++ " pass(es)"
  | cycleSettled cycle passes =>
    "cycle " ++ toString cycle ++ " settled in " ++ toString passes ++ " pass(es)"
  | sampled monitors cycle =>
    "sampled " ++ toString monitors ++ " monitor(s) at cycle " ++ toString cycle
  | notSettled cycle passes =>
    "cycle " ++ toString cycle ++ " did not settle within " ++ toString passes ++
      " passes; state rolled back"

def line (notice : Notice) : String :=
  "[" ++ notice.level.name ++ " " ++ notice.target ++ "] " ++ notice.message ++ "\n"

end Notice

end LogicBench
