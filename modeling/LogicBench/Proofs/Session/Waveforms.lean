import LogicBench.Proofs.Definition.Layout
import LogicBench.Proofs.Simulator.Bookkeeping
import LogicBench.Proofs.Simulator.History
import LogicBench.Proofs.Text.Lines
import LogicBench.Waveform

/-!
# Reading waveforms

The rows that show the monitored outputs are equally long, and a column of marks stands for the same
cycle in all of them. The text alone tells what is shown: no name holds a blank or a colon, and
blanks in front of the marks are the cycles before the first sample.
-/

namespace LogicBench

def Signal.ofMark (c : Char) : Signal :=
  .ofLevel (c = highMark)

def Trace.ofWaveform (wave : List Char) : Trace where
  startCycle := (wave.takeWhile (· = ' ')).length
  samples := ((wave.dropWhile (· = ' ')).map Signal.ofMark).toArray

namespace Recorder

def readRow (row : List Char) : String × Trace :=
  (String.ofList (row.takeWhile (· ≠ ' ')), .ofWaveform ((row.dropWhile (· ≠ ':')).drop 2))

/-- The names and the traces that a text shows, row by row. -/
def readRows (text : String) : List (String × Trace) :=
  (Text.lines text.toList).map readRow

end Recorder

/-! ## One trace -/

namespace Signal

theorem mark_eq (signal : Signal) : signal.mark = highMark ∨ signal.mark = lowMark := by
  unfold mark
  split
  · exact .inl rfl
  · exact .inr rfl

theorem ofMark_mark (level : Bool) : ofMark (ofLevel level).mark = ofLevel level := by
  cases level <;> decide

end Signal

namespace Trace

def IsSteady (trace : Trace) : Prop :=
  ∀ sample ∈ trace.samples.toList, ∃ level, sample = .ofLevel level

variable {trace : Trace}

theorem toList_waveform (trace : Trace) : trace.waveform.toList =
    List.replicate trace.startCycle ' ' ++ trace.samples.toList.map Signal.mark := by
  rw [waveform, String.toList_ofList]

theorem length_waveform (trace : Trace) :
    trace.waveform.length = trace.startCycle + trace.samples.size := by
  rw [← String.length_toList, toList_waveform]
  simp

theorem getElem?_waveform (trace : Trace) (i : Nat) :
    trace.waveform.toList[i]? = if i < trace.startCycle then some ' '
      else trace.samples[i - trace.startCycle]?.map Signal.mark := by
  rw [toList_waveform]
  split
  · next hlt =>
    rw [List.getElem?_append_left (by simpa using hlt), List.getElem?_replicate_of_lt hlt]
  · next hge =>
    rw [List.getElem?_append_right (by simpa using hge), List.getElem?_map]
    simp

theorem ofWaveform_waveform (h : trace.IsSteady) : ofWaveform trace.waveform.toList = trace := by
  have hblank : ∀ c ∈ List.replicate trace.startCycle ' ', decide (c = ' ') = true := by
    intro c hc
    simpa using List.eq_of_mem_replicate hc
  have hmark : ∀ c ∈ (trace.samples.toList.map Signal.mark).head?, decide (c = ' ') = false := by
    intro c hc
    obtain ⟨sample, -, rfl⟩ := List.mem_map.1 (List.mem_of_head? hc)
    rcases sample.mark_eq with heq | heq <;> rw [heq] <;> decide
  obtain ⟨htake, hdrop⟩ := Text.takeWhile_dropWhile_append hblank hmark
  have hsamples : (trace.samples.toList.map Signal.mark).map Signal.ofMark =
      trace.samples.toList := by
    rw [List.map_map]
    refine (List.map_congr_left fun sample hsample => ?_).trans (List.map_id _)
    obtain ⟨level, rfl⟩ := h sample hsample
    exact Signal.ofMark_mark level
  rw [ofWaveform, toList_waveform, htake, hdrop, hsamples, List.length_replicate]

end Trace

/-! ## One row -/

namespace Recorder

def line (width : Nat) (entry : SignalName × Trace) : String :=
  padTo width entry.1.text ++ " : " ++ entry.2.waveform

variable {recorder : Recorder} {entry : SignalName × Trace} {width : Nat}

theorem render_eq (recorder : Recorder) : recorder.render =
    String.join ((recorder.entries.map (line recorder.nameWidth)).map (· ++ "\n")) := by
  rw [render, List.map_map]
  rfl

theorem toList_line (width : Nat) (entry : SignalName × Trace) : (line width entry).toList =
    entry.1.text.toList ++ List.replicate (width - entry.1.text.length) ' ' ++ [' ', ':', ' '] ++
      entry.2.waveform.toList := by
  simp [line, padTo]

theorem length_front (h : entry.1.text.length ≤ width) :
    (entry.1.text.toList ++ List.replicate (width - entry.1.text.length) ' ' ++
      [' ', ':', ' ']).length = width + 3 := by
  simp only [List.length_append, String.length_toList, List.length_replicate, List.length_cons,
    List.length_nil]
  omega

theorem length_line (h : entry.1.text.length ≤ width) :
    (line width entry).length = width + 3 + entry.2.waveform.length := by
  rw [← String.length_toList, toList_line, List.length_append, length_front h,
    String.length_toList]

theorem getElem?_line (h : entry.1.text.length ≤ width) (i : Nat) :
    (line width entry).toList[width + 3 + i]? = entry.2.waveform.toList[i]? := by
  rw [toList_line, List.getElem?_append_right (by rw [length_front h]; omega), length_front h,
    Nat.add_sub_cancel_left]

theorem readRow_line (hname : ∀ c ∈ entry.1.text.toList, c ≠ ' ' ∧ c ≠ ':')
    (hsteady : entry.2.IsSteady) (width : Nat) :
    readRow (line width entry).toList = (entry.1.text, entry.2) := by
  set blanks := List.replicate (width - entry.1.text.length) ' ' with hblanks
  have hblank : ∀ c ∈ blanks, c = ' ' := fun c hc => List.eq_of_mem_replicate hc
  have htext : (line width entry).toList = entry.1.text.toList ++
      (blanks ++ ' ' :: ':' :: ' ' :: entry.2.waveform.toList) := by
    rw [toList_line, ← hblanks]
    simp
  have hbehind : (line width entry).toList = (entry.1.text.toList ++ blanks ++ [' ']) ++
      ':' :: ' ' :: entry.2.waveform.toList := by
    rw [htext]
    simp
  have htake : (line width entry).toList.takeWhile (· ≠ ' ') = entry.1.text.toList := by
    rw [htext]
    refine (Text.takeWhile_dropWhile_append (fun c hc => by simpa using (hname c hc).1) ?_).1
    intro c hc
    have hfirst : c = ' ' := by
      cases hnil : blanks with
      | nil =>
          rw [hnil] at hc
          exact (Option.some.inj hc).symm
      | cons first rest =>
          rw [hnil] at hc
          rw [← Option.some.inj hc]
          exact hblank first (by rw [hnil]; exact List.mem_cons_self)
    simp [hfirst]
  have hdrop : (line width entry).toList.dropWhile (· ≠ ':') =
      ':' :: ' ' :: entry.2.waveform.toList := by
    rw [hbehind]
    refine (Text.takeWhile_dropWhile_append (fun c hc => ?_) (by simp)).2
    have hne : c ≠ ':' := by
      rcases List.mem_append.1 hc with hfront | hlast
      · rcases List.mem_append.1 hfront with htext | hpad
        · exact (hname c htext).2
        · rw [hblank c hpad]
          decide
      · rw [List.mem_singleton.1 hlast]
        decide
    simpa using hne
  rw [readRow, htake, hdrop, String.ofList_toList]
  exact congrArg (Prod.mk _) (Trace.ofWaveform_waveform hsteady)

/-! ## All rows -/

structure IsLegible (recorder : Recorder) : Prop where
  names : ∀ name ∈ recorder.points, ∀ c ∈ name.text.toList, c.isAlphanum ∨ c = '.'
  steady : ∀ entry ∈ recorder.entries, entry.2.IsSteady

theorem le_foldl_max {sizes : List Nat} {size first : Nat} (h : size ≤ first ∨ size ∈ sizes) :
    size ≤ sizes.foldl max first := by
  induction sizes generalizing first with
  | nil => exact h.resolve_right (by simp)
  | cons next rest ih =>
      apply ih
      rcases h with hle | hmem
      · exact .inl (Nat.le_trans hle (Nat.le_max_left first next))
      · rcases List.mem_cons.1 hmem with rfl | hrest
        · exact .inl (Nat.le_max_right first size)
        · exact .inr hrest

theorem utf8Size_of_isAlphanum_or_dot {c : Char} (h : c.isAlphanum ∨ c = '.') :
    c.utf8Size = 1 := by
  rw [Char.utf8Size_eq_one_iff, UInt32.le_iff_toNat_le]
  show c.toNat ≤ 127
  rcases h with halphanum | rfl
  · have hcode := Text.isAlphanum_iff.1 halphanum
    omega
  · decide

theorem utf8ByteSize_eq_length {text : List Char} (h : ∀ c ∈ text, c.utf8Size = 1) :
    (String.ofList text).utf8ByteSize = text.length := by
  induction text with
  | nil => rfl
  | cons c rest ih =>
      obtain ⟨hsize, hrest⟩ := List.forall_mem_cons.1 h
      rw [← List.singleton_append, String.ofList_append, String.utf8ByteSize_append,
        ← String.singleton_eq_ofList, String.utf8ByteSize_singleton, hsize, ih hrest,
        List.length_append, List.length_singleton]

/-- The column of names is as wide as the longest, since a character of a name is a byte. -/
theorem IsLegible.nameWidth_eq (h : recorder.IsLegible) : recorder.nameWidth =
    (recorder.points.map fun name => name.text.length).foldl max 0 := by
  rw [nameWidth]
  congr 1
  refine List.map_congr_left fun name hname => ?_
  have hsize := utf8ByteSize_eq_length fun c hc =>
    utf8Size_of_isAlphanum_or_dot (h.names name hname c hc)
  rwa [String.ofList_toList, String.length_toList] at hsize

theorem IsLegible.length_le_nameWidth (h : recorder.IsLegible) (hentry : entry ∈ recorder.entries) :
    entry.1.text.length ≤ recorder.nameWidth := by
  rw [h.nameWidth_eq]
  apply le_foldl_max
  exact .inr (List.mem_map_of_mem (f := fun name : SignalName => name.text.length)
    (List.mem_map_of_mem hentry))

theorem IsLegible.not_mem_line (h : recorder.IsLegible) (hentry : entry ∈ recorder.entries)
    {c : Char} (hc : c = '\n' ∨ c = '\r') (width : Nat) : c ∉ (line width entry).toList := by
  have hname : c ∉ entry.1.text.toList := by
    intro hmem
    have hlegible := h.names _ (List.mem_map_of_mem hentry) c hmem
    rcases hc with rfl | rfl <;> exact absurd hlegible (by decide)
  have hwave : c ∉ entry.2.waveform.toList := by
    rw [Trace.toList_waveform]
    intro hmem
    rcases List.mem_append.1 hmem with hblank | hmark
    · rw [List.eq_of_mem_replicate hblank] at hc
      exact absurd hc (by decide)
    · obtain ⟨sample, -, rfl⟩ := List.mem_map.1 hmark
      rcases sample.mark_eq with heq | heq <;> rw [heq] at hc <;> exact absurd hc (by decide)
  have hpads : c ∉ List.replicate (width - entry.1.text.length) ' ' ++ [' ', ':', ' '] := by
    rcases hc with rfl | rfl <;> simp
  rw [toList_line, List.append_assoc entry.1.text.toList]
  simp only [List.mem_append, not_or] at hpads ⊢
  exact ⟨⟨hname, hpads⟩, hwave⟩

theorem IsLegible.readRows_render (h : recorder.IsLegible) :
    readRows recorder.render = recorder.entries.map fun entry => (entry.1.text, entry.2) := by
  have hrows : ∀ row ∈ recorder.entries.map (line recorder.nameWidth),
      '\n' ∉ row.toList ∧ '\r' ∉ row.toList := by
    intro row hrow
    obtain ⟨entry, hentry, rfl⟩ := List.mem_map.1 hrow
    exact ⟨h.not_mem_line hentry (.inl rfl) _, h.not_mem_line hentry (.inr rfl) _⟩
  rw [readRows, render_eq, Text.lines_join hrows, List.map_map, List.map_map]
  refine List.map_congr_left fun entry hentry => ?_
  refine readRow_line (fun c hc => ?_) (h.steady entry hentry) _
  rcases h.names _ (List.mem_map_of_mem hentry) c hc with halphanum | rfl
  · constructor <;> rintro rfl <;> exact absurd halphanum (by decide)
  · decide

end Recorder

/-! ## Simulators -/

namespace Definition

open Simulator

variable {source : String}

theorem isLegible_performAll (hvalid : (ofSource source).hasErrors = false) (maxPasses : Nat)
    (operations : List Operation) :
    let definition := ofSource source
    let simulator := ofNetwork definition.names definition.network definition.recorder maxPasses
    (simulator.performAll operations).1.recorder.IsLegible := by
  intro definition simulator
  have hrecords : (simulator.performAll operations).1.Records
      (({} : Chronicle).performAll simulator operations) :=
    (records_ofNetwork (built_ofSource source) (reset_recorder_ofSource source) _
      maxPasses).performAll operations
  have hwatches : (simulator.performAll operations).1.recorder.Watches
      (simulator.performAll operations).1.network :=
    (simulator.reaches_performAll operations).watches (watches_ofSource hvalid)
  have hbare := (simulator.sameCircuit_performAll operations).bare
  constructor
  · intro name hname c
    have hdevice : ∀ c ∈ name.device.toList, c.isAlphanum := fun c =>
      isAlphanum_of_hasSignal hbare (hwatches.outputs name hname)
    exact SignalName.isAlphanum_or_dot_of_mem_text hdevice
  · intro entry hentry sample hsample
    obtain ⟨-, hsamples⟩ := hrecords.samples hwatches hentry
    obtain ⟨i, hi⟩ := List.getElem?_of_mem hsample
    obtain ⟨network, signal, -, -, -, hlevel⟩ := hsamples i sample (by simpa using hi)
    exact ⟨signal.isHigh, hlevel⟩

/-- The rows that show the monitored outputs are aligned, and nothing is lost in them. There is one
for each output, in the order in which they were added, as long as the longest name, three
characters and the completed cycles. Behind the name and the colon, a column stands for the same
cycle in all rows: it is blank before the first sample, and then marks the level of the output after
that cycle. Names and traces can be read back from the text, so that simulators that show the same
have the same names and traces. -/
theorem waveforms_are_lossless (hvalid : (ofSource source).hasErrors = false) (maxPasses : Nat)
    (operations : List Operation) :
    let definition := ofSource source
    let simulator := ofNetwork definition.names definition.network definition.recorder maxPasses
    let last := (simulator.performAll operations).1
    let chronicle := ({} : Chronicle).performAll simulator operations
    let width := (last.recorder.points.map fun name => name.text.length).foldl max 0
    last.recorder.points = (operations.zip (simulator.performAll operations).2).foldl
      definition.network.monitoredAfter definition.recorder.points ∧
    (∃ rows : List String, last.render = String.join (rows.map (· ++ "\n")) ∧
      List.Forall₂ (fun (entry : SignalName × Trace) row =>
        '\n' ∉ row.toList ∧ row.length = width + 3 + last.cycleCount ∧
        ∀ cycle, 1 ≤ cycle → cycle ≤ last.cycleCount →
          (cycle ≤ entry.2.startCycle → row.toList[width + 2 + cycle]? = some ' ') ∧
          (entry.2.startCycle < cycle → ∃ network signal,
            chronicle.states[cycle - 1]? = some network ∧ network.cycle = cycle ∧
            network.signalNamed? entry.1 = some signal ∧
            row.toList[width + 2 + cycle]? = some signal.mark))
        last.recorder.entries rows) ∧
    Recorder.readRows last.render =
      last.recorder.entries.map (fun entry => (entry.1.text, entry.2)) ∧
    ∀ text, (ofSource text).hasErrors = false → ∀ passes others,
      let definition := ofSource text
      let simulator := ofNetwork definition.names definition.network definition.recorder passes
      let other := (simulator.performAll others).1
      other.render = last.render →
        other.recorder.entries.map (fun entry => (entry.1.text, entry.2)) =
          last.recorder.entries.map fun entry => (entry.1.text, entry.2) := by
  intro definition simulator last chronicle width
  have hlegible : last.recorder.IsLegible := isLegible_performAll hvalid maxPasses operations
  have hrecords : last.Records chronicle :=
    (records_ofNetwork (built_ofSource source) (reset_recorder_ofSource source) _
      maxPasses).performAll operations
  have hwatches : last.recorder.Watches last.network :=
    (simulator.reaches_performAll operations).watches (watches_ofSource hvalid)
  have hpoints : last.recorder.points = (operations.zip (simulator.performAll operations).2).foldl
      definition.network.monitoredAfter definition.recorder.points :=
    points_performAll (built_ofSource source).wellWired.toWired
      (fun _ => not_dot_mem_of_mem_devices) rfl (watches_ofSource hvalid) operations
  refine ⟨hpoints, ⟨last.recorder.entries.map (Recorder.line last.recorder.nameWidth),
    last.recorder.render_eq, ?_⟩, hlegible.readRows_render, ?_⟩
  · rw [List.forall₂_map_right_iff, List.forall₂_same]
    intro entry hentry
    have hwidth : last.recorder.nameWidth = width := hlegible.nameWidth_eq
    have hname := hlegible.length_le_nameWidth hentry
    obtain ⟨hcount, hsamples⟩ := hrecords.samples hwatches hentry
    rw [hwidth] at hname ⊢
    refine ⟨hlegible.not_mem_line hentry (.inl rfl) width, ?_, ?_⟩
    · rw [Recorder.length_line hname, Trace.length_waveform, hcount]
    · intro cycle hfirst hlast
      have hcolumn : width + 2 + cycle = width + 3 + (cycle - 1) := by omega
      rw [hcolumn, Recorder.getElem?_line hname, Trace.getElem?_waveform]
      constructor
      · intro hblank
        rw [if_pos (by omega)]
      · intro hmark
        have hlt : cycle - 1 - entry.2.startCycle < entry.2.samples.size := by omega
        have hsample := Array.getElem?_eq_getElem hlt
        obtain ⟨network, signal, hnetwork, hcycle, hsignal, hlevel⟩ := hsamples _ _ hsample
        have hindex : entry.2.startCycle + (cycle - 1 - entry.2.startCycle) = cycle - 1 := by omega
        rw [hindex] at hnetwork hcycle
        refine ⟨network, signal, hnetwork, by omega, hsignal, ?_⟩
        rw [if_neg (by omega), hsample, Option.map_some, hlevel, Signal.mark, Signal.isHigh_ofLevel,
          Signal.mark]
  · intro text hother passes others definition' simulator' other hrender
    have hread := (isLegible_performAll hother passes others).readRows_render
    have hsame := hlegible.readRows_render
    have hrendered : other.recorder.render = last.recorder.render := hrender
    rw [← hsame, ← hrendered]
    exact hread.symm

/-- The inverter is monitored from the third cycle on, and the clock from the start. -/
theorem waveforms_are_lossless_late :
    let definition := ofSource "DEVICES c:CLOCK 1, n:NOT; CONNECT c > n; MONITOR c; END"
    let simulator := ofNetwork definition.names definition.network definition.recorder 20
    let last := (simulator.performAll [.run 2, .addMonitor "n", .continueRun 3]).1
    definition.hasErrors = false ∧ last.render = "c : -_-_-\nn :   _-_\n" ∧
      Recorder.readRows last.render =
        last.recorder.entries.map (fun entry => (entry.1.text, entry.2)) := by
  intro definition simulator last
  have hvalid : definition.hasErrors = false := by
    unfold definition
    decide +kernel
  have hrender : last.render = "c : -_-_-\nn :   _-_\n" := by
    unfold last simulator definition
    decide +kernel
  obtain ⟨-, -, hread, -⟩ :=
    waveforms_are_lossless hvalid 20 [.run 2, .addMonitor "n", .continueRun 3]
  exact ⟨hvalid, hrender, hread⟩

end Definition

end LogicBench
