import LogicBench.Simulator

/-!
# Waveforms

Traces as rows of text: one mark per cycle, blanks for the cycles before the first sample, the rows
aligned behind the names.
-/

namespace LogicBench

def highMark : Char := '-'

def lowMark : Char := '_'

def Signal.mark (signal : Signal) : Char :=
  if signal.isHigh then highMark else lowMark

def Trace.waveform (trace : Trace) : String :=
  String.ofList (List.replicate trace.startCycle ' ' ++ trace.samples.toList.map Signal.mark)

/-- A text with blanks behind it up to a width, counted in characters. -/
def padTo (width : Nat) (text : String) : String :=
  text ++ String.ofList (List.replicate (width - text.length) ' ')

namespace Recorder

/-- The width of the column of names: the size of the longest, in bytes. -/
def nameWidth (recorder : Recorder) : Nat :=
  (recorder.points.map fun name => name.text.utf8ByteSize).foldl max 0

def row (width : Nat) (entry : SignalName × Trace) : String :=
  padTo width entry.1.text ++ " : " ++ entry.2.waveform ++ "\n"

/-- The rows of all traces, in the order in which they were added. -/
def render (recorder : Recorder) : String :=
  String.join (recorder.entries.map (row recorder.nameWidth))

end Recorder

/-- The traces of a simulator as rows of marks. -/
def Simulator.render (simulator : Simulator) : String :=
  simulator.recorder.render

/-- The diagnostics of a definition, each with the line that it is about. -/
def Diagnostic.renderAll (diagnostics : List Diagnostic) (source : String) : String :=
  String.join (diagnostics.map fun diagnostic => diagnostic.render source ++ "\n")

end LogicBench
