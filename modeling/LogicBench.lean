import LogicBench.CommandLine
import LogicBench.Text.Bounded
import LogicBench.Session
import LogicBench.Main
import LogicBench.Proofs.Network.Wiring
import LogicBench.Proofs.Network.EvaluationOrder
import LogicBench.Proofs.Network.Settling
import LogicBench.Proofs.Network.Fixpoint
import LogicBench.Proofs.Network.Confluence
import LogicBench.Proofs.Circuit.Behaviour
import LogicBench.Proofs.Network.Phases
import LogicBench.Proofs.Circuit.Refinement
import LogicBench.Proofs.Circuit.Simulation
import LogicBench.Proofs.Definition.Spelling
import LogicBench.Proofs.Definition.Grammar
import LogicBench.Proofs.Definition.Recognition
import LogicBench.Proofs.Definition.Diagnosis
import LogicBench.Proofs.Definition.Tokens
import LogicBench.Proofs.Definition.Meaning
import LogicBench.Proofs.Definition.Elaboration
import LogicBench.Proofs.Definition.Rendering
import LogicBench.Proofs.Definition.Exactness
import LogicBench.Proofs.Definition.Acceptance
import LogicBench.Proofs.Definition.Locality
import LogicBench.Proofs.Definition.Segments
import LogicBench.Proofs.Definition.Recovery
import LogicBench.Proofs.Simulator.Steps
import LogicBench.Proofs.Simulator.Cycle
import LogicBench.Proofs.Simulator.Rollback
import LogicBench.Proofs.Simulator.Points
import LogicBench.Proofs.Simulator.Restart
import LogicBench.Proofs.Simulator.History
import LogicBench.Proofs.Simulator.Phase
import LogicBench.Proofs.Network.Consistency
import LogicBench.Proofs.Network.Passes
import LogicBench.Proofs.Simulator.PassLimit
import LogicBench.Proofs.Definition.Layout
import LogicBench.Proofs.Simulator.Edges
import LogicBench.Proofs.Definition.Tiling
import LogicBench.Proofs.Definition.Relocation
import LogicBench.Proofs.Definition.Spacing
import LogicBench.Proofs.Definition.Handles
import LogicBench.Proofs.Simulator.Addresses
import LogicBench.Proofs.Simulator.Bookkeeping
import LogicBench.Proofs.Session.Shown
import LogicBench.Proofs.Definition.Connecting
import LogicBench.Proofs.Definition.Reordering
import LogicBench.Proofs.Network.DriversFirst
import LogicBench.Proofs.Network.Oscillation
import LogicBench.Proofs.Simulator.Sampling
import LogicBench.Proofs.Definition.Switches
import LogicBench.Proofs.Session.Setting
import LogicBench.Proofs.Definition.Places
import LogicBench.Proofs.Definition.Reporting
import LogicBench.Proofs.Definition.Wording
import LogicBench.Proofs.Definition.Caret
import LogicBench.Proofs.Session.Waveforms
import LogicBench.Proofs.Simulator.Attendance
import LogicBench.Proofs.Device.PinNames
import LogicBench.Proofs.Device.Qualifiers
import LogicBench.Proofs.Simulator.SignalNames
import LogicBench.Proofs.Definition.Interning
import LogicBench.Proofs.Device.Latching
import LogicBench.Proofs.Simulator.Latching
import LogicBench.Proofs.Definition.Progress
import LogicBench.Index
import LogicBench.Proofs.Definition.Indexing
import LogicBench.Proofs.Network.Indexing
