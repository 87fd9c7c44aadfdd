import LogicBench.Definition.Basic
import LogicBench.Proofs.Network.Wiring

/-!
# Applying items

What one entry of an outline can do to a draft: an accepted item extends the network or the
recorder and reports nothing, everything else reports. Diagnostics are never taken back, and a
dropped one comes after another that is kept.
-/

namespace LogicBench.Draft

@[simp] theorem network_report (draft : Draft) (within : Option Section) (diagnostic : Diagnostic) :
    (draft.report within diagnostic).network = draft.network := by
  unfold report
  split <;> rfl

@[simp] theorem recorder_report (draft : Draft) (within : Option Section)
    (diagnostic : Diagnostic) : (draft.report within diagnostic).recorder = draft.recorder := by
  unfold report
  split <;> rfl

@[simp] theorem declaredAt_report (draft : Draft) (within : Option Section)
    (diagnostic : Diagnostic) :
    (draft.report within diagnostic).declaredAt = draft.declaredAt := by
  unfold report
  split <;> rfl

@[simp] theorem implicated_report (draft : Draft) (within : Option Section)
    (diagnostic : Diagnostic) :
    (draft.report within diagnostic).implicated = draft.implicated := by
  unfold report
  split <;> rfl

theorem declare_cases (draft : Draft) (declared : DeviceDeclaration) :
    (∃ type kind network id, declared.kind = .known type ∧
      DeviceKind.ofDeclaration type (declared.qualifier.map (·.digits)) = .ok kind ∧
      draft.network.addDevice declared.name kind = .ok (network, id) ∧
      draft.declare declared =
        { draft with network, declaredAt := draft.declaredAt ++ [declared.position] }.note
          (.declared declared.name type)) ∨
      ∃ position message, draft.declare declared = draft.refuse position message := by
  unfold declare
  split
  · exact .inr ⟨_, _, rfl⟩
  · next type htype =>
    split
    · exact .inr ⟨_, _, rfl⟩
    · next kind hkind =>
      split
      · exact .inr ⟨_, _, rfl⟩
      · next network id hnetwork =>
        exact .inl ⟨type, kind, network, id, htype, hkind, hnetwork, rfl⟩

theorem connected_eq_ok_iff {network next : Network} {source destination : Reference} :
    connected network source destination = .ok next ↔
      ∃ driver id pin, source.driver network = .ok driver ∧
        destination.target network = .ok (id, pin) ∧ network.connect driver id pin = .ok next := by
  unfold connected
  constructor
  · intro h
    split at h
    · cases h
    · next driver hdriver =>
      split at h
      · cases h
      · next id pin htarget =>
        split at h
        · cases h
        · next grown hconnect =>
          cases h
          exact ⟨driver, id, pin, hdriver, htarget, hconnect⟩
  · rintro ⟨driver, id, pin, hdriver, htarget, hconnect⟩
    simp [hdriver, htarget, hconnect]

theorem reference_of_connected {network : Network} {source destination reference : Reference}
    {cause : NetworkError} (h : connected network source destination = .error (reference, cause)) :
    reference = source ∨ reference = destination := by
  unfold connected at h
  split at h
  · cases h
    exact .inl rfl
  · split at h
    · cases h
      exact .inr rfl
    · split at h
      · cases h
        exact .inr rfl
      · cases h

theorem connect_cases (draft : Draft) (source destination : Reference) :
    (∃ network, connected draft.network source destination = .ok network ∧
      draft.connect source destination = { draft with network }) ∨
      ∃ position message, draft.connect source destination =
        (draft.implicate destination.device).refuse position message := by
  unfold connect
  split
  · next network hnetwork => exact .inl ⟨network, hnetwork, rfl⟩
  · exact .inr ⟨_, _, rfl⟩

theorem monitored_eq_ok_iff {network : Network} {recorder next : Recorder} {reference : Reference} :
    monitored network recorder reference = .ok next ↔
      ∃ driver, reference.driver network = .ok driver ∧
        recorder.add network ⟨reference.device, driver.pin⟩ = .ok next := by
  unfold monitored
  constructor
  · intro h
    split at h
    · cases h
    · cases h
    · cases h
    · next driver hdriver =>
      split at h
      · next grown hadd =>
        cases h
        exact ⟨driver, hdriver, hadd⟩
      · cases h
  · rintro ⟨driver, hdriver, hadd⟩
    simp [hdriver, hadd]

theorem monitor_cases (draft : Draft) (reference : Reference) :
    (∃ recorder, monitored draft.network draft.recorder reference = .ok recorder ∧
      draft.monitor reference = { draft with recorder }) ∨
      ∃ position message, draft.monitor reference = draft.refuse position message := by
  unfold monitor
  split
  · next recorder hrecorder => exact .inl ⟨recorder, hrecorder, rfl⟩
  · exact .inr ⟨_, _, rfl⟩

@[simp] theorem network_checkInputs (draft : Draft) (device : Device) (id : DeviceId) :
    (draft.checkInputs device id).network = draft.network := by
  unfold checkInputs
  split
  · rfl
  · exact network_report ..

@[simp] theorem recorder_checkInputs (draft : Draft) (device : Device) (id : DeviceId) :
    (draft.checkInputs device id).recorder = draft.recorder := by
  unfold checkInputs
  split
  · rfl
  · exact recorder_report ..

@[simp] theorem network_checkUse (draft : Draft) (device : Device) (id : DeviceId) :
    (draft.checkUse device id).network = draft.network := by
  unfold checkUse
  split
  · exact network_report ..
  · rfl

@[simp] theorem recorder_checkUse (draft : Draft) (device : Device) (id : DeviceId) :
    (draft.checkUse device id).recorder = draft.recorder := by
  unfold checkUse
  split
  · exact recorder_report ..
  · rfl

theorem foldl_keeps {α β : Type} {step : Draft → α → Draft} (field : Draft → β)
    (h : ∀ draft a, field (step draft a) = field draft) (list : List α) (draft : Draft) :
    field (list.foldl step draft) = field draft := by
  induction list generalizing draft with
  | nil => rfl
  | cons a rest ih => rw [List.foldl_cons, ih, h]

@[simp] theorem network_checkUnbound (draft : Draft) :
    draft.checkUnbound.network = draft.network := by
  unfold checkUnbound
  split
  · rfl
  · exact foldl_keeps _ (fun _ _ => network_checkInputs ..) _ _

@[simp] theorem recorder_checkUnbound (draft : Draft) :
    draft.checkUnbound.recorder = draft.recorder := by
  unfold checkUnbound
  split
  · rfl
  · exact foldl_keeps _ (fun _ _ => recorder_checkInputs ..) _ _

@[simp] theorem network_checkUnused (draft : Draft) :
    draft.checkUnused.network = draft.network := by
  unfold checkUnused
  split
  · rfl
  · exact foldl_keeps _ (fun _ _ => network_checkUse ..) _ _

@[simp] theorem recorder_checkUnused (draft : Draft) :
    draft.checkUnused.recorder = draft.recorder := by
  unfold checkUnused
  split
  · rfl
  · exact foldl_keeps _ (fun _ _ => recorder_checkUse ..) _ _

/-- The draft when every entry has been applied, before it is checked as a whole. -/
def ofEntries (entries : List Entry) : Draft :=
  entries.foldl apply {}

theorem ofTokens_of_ne_nil {stream : TokenStream} (h : stream.tokens ≠ []) :
    ofTokens stream = (ofEntries
      (Outline.readSections stream.stop none stream.tokens).entries).checkUnbound.checkUnused.close
    := by
  have hempty : stream.tokens.isEmpty = false := by simpa using h
  have hentries : (Outline.ofTokens stream).entries =
      (Outline.readSections stream.stop none stream.tokens).entries := by
    simp [Outline.ofTokens, hempty]
  rw [ofTokens, hempty, if_neg (by decide), ofOutline, hentries]
  rfl

theorem network_ofTokens (stream : TokenStream) :
    (ofTokens stream).network = (ofEntries (Outline.ofTokens stream).entries).network := by
  unfold ofTokens
  split
  · next h => simp [close, note, refuse, Outline.ofTokens, h, ofEntries]
  · simp [close, note, ofOutline, ofEntries]

theorem built_apply {draft : Draft} (h : draft.network.Built) (entry : Entry) :
    (draft.apply entry).network.Built := by
  cases entry with
  | opening opened => exact h
  | problem within diagnostic =>
      rw [apply, network_report]
      exact h
  | item item =>
      cases item with
      | device declared =>
          rcases draft.declare_cases declared with
            ⟨type, kind, network, id, -, hkind, hadd, heq⟩ | ⟨position, message, heq⟩
          · have hnext := Network.Built.addDevice h (DeviceKind.valid_of_ofDeclaration hkind) hadd
            simpa [apply, applyItem, heq, note] using hnext
          · simpa [apply, applyItem, heq, refuse] using h
      | connection source destination =>
          rcases draft.connect_cases source destination with
            ⟨network, hconnected, heq⟩ | ⟨position, message, heq⟩
          · obtain ⟨driver, id, pin, -, -, hconnect⟩ := connected_eq_ok_iff.1 hconnected
            have hnext := Network.Built.connect h hconnect
            simpa [apply, applyItem, heq] using hnext
          · simpa [apply, applyItem, heq, refuse, implicate] using h
      | signal reference =>
          rcases draft.monitor_cases reference with
            ⟨recorder, -, heq⟩ | ⟨position, message, heq⟩
          · simpa [apply, applyItem, heq] using h
          · simpa [apply, applyItem, heq, refuse] using h

theorem built_ofEntries (entries : List Entry) : (ofEntries entries).network.Built := by
  have hstep (draft : Draft) (h : draft.network.Built) (entry : Entry) (_ : entry ∈ entries) :
      (draft.apply entry).network.Built := built_apply h entry
  exact List.foldlRecOn entries apply Network.Built.empty hstep

end LogicBench.Draft

namespace LogicBench.Definition

theorem built_ofSource (source : String) : (ofSource source).network.Built := by
  have hnetwork : (ofSource source).network =
      (Draft.ofTokens (.ofSource source)).network := rfl
  rw [hnetwork, Draft.network_ofTokens]
  exact Draft.built_ofEntries _

end LogicBench.Definition
