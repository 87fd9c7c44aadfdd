import LogicBench.Proofs.Definition.Drafting

/-!
# Numbering the declarations

The place of a declaration is looked up by the number of the device. Devices and places are added
together, and only the checks of the whole network look a place up, so that every look-up finds
one.
-/

namespace LogicBench.Draft

def Numbered (draft : Draft) : Prop :=
  draft.declaredAt.length = draft.network.devices.length

/-- `checkInputs` with a look-up that fails where there is no place. -/
def checkInputs? (draft : Draft) (device : Device) (id : DeviceId) : Option Draft :=
  if device.unbound.isEmpty || draft.implicated.contains id then some draft
  else do
    let place ← draft.declaredAt[id]?
    return draft.refuseName place device.name (unboundMessage device.unbound)

def checkUnbound? (draft : Draft) : Option Draft :=
  if draft.connectIncomplete then some (draft.note .unboundSkipped)
  else
    draft.network.devices.zipIdx.foldlM (fun draft (device, id) => draft.checkInputs? device id)
      draft

def checkUse? (draft : Draft) (device : Device) (id : DeviceId) : Option Draft :=
  if draft.network.fanout id = 0 && draft.recorder.points.all (·.device ≠ device.name) then do
    let place ← draft.declaredAt[id]?
    return draft.report none
      ⟨.warning, place, "`" ++ device.name ++ "` drives nothing and is not monitored"⟩
  else some draft

def checkUnused? (draft : Draft) : Option Draft :=
  if draft.diagnostics.any Diagnostic.isError then some draft
  else
    draft.network.devices.zipIdx.foldlM (fun draft (device, id) => draft.checkUse? device id) draft

variable {draft next : Draft} {device : Device} {id : DeviceId}

theorem Numbered.id_of_addDevice (h : draft.Numbered) {name : String} {kind : DeviceKind}
    {network : Network} (hadd : draft.network.addDevice name kind = .ok (network, id)) :
    id = draft.declaredAt.length := by
  obtain ⟨-, hid, -⟩ := Network.addDevice_eq_ok_iff.1 hadd
  exact hid.trans h.symm

theorem Numbered.of_eq (h : draft.Numbered) (hnetwork : next.network = draft.network)
    (hdeclaredAt : next.declaredAt = draft.declaredAt) : next.Numbered := by
  rw [Numbered, hnetwork, hdeclaredAt]
  exact h

theorem Numbered.refuse (h : draft.Numbered) (position : Position) (message : String) :
    (draft.refuse position message).Numbered :=
  h.of_eq (network_report ..) (declaredAt_report ..)

theorem Numbered.apply (h : draft.Numbered) (entry : Entry) : (draft.apply entry).Numbered := by
  cases entry with
  | opening opened => exact h
  | problem within diagnostic => exact h.of_eq (network_report ..) (declaredAt_report ..)
  | item item =>
      cases item with
      | device declared =>
          rw [Draft.apply, applyItem]
          obtain ⟨type, kind, network, id, -, -, hadd, heq⟩ | ⟨position, message, heq⟩ :=
            draft.declare_cases declared
          · obtain ⟨-, -, rfl⟩ := Network.addDevice_eq_ok_iff.1 hadd
            rw [heq]
            simpa [Numbered, note] using h
          · exact heq ▸ h.refuse position message
      | connection source destination =>
          rw [Draft.apply, applyItem]
          obtain ⟨network, hconnected, heq⟩ | ⟨position, message, heq⟩ :=
            draft.connect_cases source destination
          · obtain ⟨driver, id, pin, -, -, hconnect⟩ := connected_eq_ok_iff.1 hconnected
            obtain ⟨-, driven, -, -, rfl⟩ := Network.connect_eq_ok_iff.1 hconnect
            rw [heq]
            simpa [Numbered] using h
          · have himplicated : (draft.implicate destination.device).Numbered := h
            exact heq ▸ himplicated.refuse position message
      | signal reference =>
          rw [Draft.apply, applyItem]
          obtain ⟨recorder, -, heq⟩ | ⟨position, message, heq⟩ := draft.monitor_cases reference
          · exact heq ▸ h
          · exact heq ▸ h.refuse position message

theorem numbered_ofEntries (entries : List Entry) : (ofEntries entries).Numbered := by
  have hempty : ({} : Draft).Numbered := rfl
  exact List.foldlRecOn entries Draft.apply hempty fun draft h entry _ => h.apply entry

theorem Numbered.getElem?_eq (h : draft.Numbered) (hid : id < draft.network.devices.length) :
    draft.declaredAt[id]? = some (draft.declarationOf id) := by
  have hlt : id < draft.declaredAt.length := Nat.lt_of_lt_of_eq hid h.symm
  rw [declarationOf, List.getElem?_eq_getElem hlt]
  rfl

theorem Numbered.checkInputs?_eq (h : draft.Numbered) (device : Device)
    (hid : id < draft.network.devices.length) :
    draft.checkInputs? device id = some (draft.checkInputs device id) := by
  rw [checkInputs?, checkInputs, h.getElem?_eq hid]
  split <;> rfl

theorem Numbered.checkUse?_eq (h : draft.Numbered) (device : Device)
    (hid : id < draft.network.devices.length) :
    draft.checkUse? device id = some (draft.checkUse device id) := by
  rw [checkUse?, checkUse, h.getElem?_eq hid]
  split <;> rfl

theorem declaredAt_checkInputs (draft : Draft) (device : Device) (id : DeviceId) :
    (draft.checkInputs device id).declaredAt = draft.declaredAt := by
  unfold checkInputs
  split
  · rfl
  · exact declaredAt_report ..

theorem declaredAt_checkUse (draft : Draft) (device : Device) (id : DeviceId) :
    (draft.checkUse device id).declaredAt = draft.declaredAt := by
  unfold checkUse
  split
  · exact declaredAt_report ..
  · rfl

theorem Numbered.checkUnbound (h : draft.Numbered) : draft.checkUnbound.Numbered := by
  refine h.of_eq (network_checkUnbound draft) ?_
  unfold Draft.checkUnbound
  split
  · rfl
  · exact foldl_keeps _ (fun _ _ => declaredAt_checkInputs ..) _ _

theorem Numbered.checkUnused (h : draft.Numbered) : draft.checkUnused.Numbered := by
  refine h.of_eq (network_checkUnused draft) ?_
  unfold Draft.checkUnused
  split
  · rfl
  · exact foldl_keeps _ (fun _ _ => declaredAt_checkUse ..) _ _

section

variable {check? : Draft → Device → DeviceId → Option Draft}
  {check : Draft → Device → DeviceId → Draft}

/-- One check of a device after another finds every place, if each of them leaves network and
places as they are. -/
theorem Numbered.foldlM_eq (h : draft.Numbered)
    (hcheck : ∀ (draft : Draft) (device : Device) (id : DeviceId), draft.Numbered →
      id < draft.network.devices.length → check? draft device id = some (check draft device id))
    (hnetwork : ∀ draft device id, (check draft device id).network = draft.network)
    (hdeclaredAt : ∀ draft device id, (check draft device id).declaredAt = draft.declaredAt)
    (pairs : List (Device × DeviceId))
    (hpairs : ∀ pair ∈ pairs, pair.2 < draft.network.devices.length) :
    pairs.foldlM (fun draft (device, id) => check? draft device id) draft =
      some (pairs.foldl (fun draft (device, id) => check draft device id) draft) := by
  induction pairs generalizing draft with
  | nil => rfl
  | cons pair pairs ih =>
      obtain ⟨device, id⟩ := pair
      obtain ⟨hid, hrest⟩ := List.forall_mem_cons.1 hpairs
      rw [List.foldlM_cons, List.foldl_cons]
      dsimp only
      rw [hcheck draft device id h hid]
      have hnext := h.of_eq (hnetwork draft device id) (hdeclaredAt draft device id)
      exact ih hnext fun pair hpair => hnetwork draft device id ▸ hrest pair hpair

end

theorem Numbered.checkUnbound?_eq (h : draft.Numbered) :
    draft.checkUnbound? = some draft.checkUnbound := by
  unfold checkUnbound? Draft.checkUnbound
  split
  · rfl
  · exact h.foldlM_eq (fun _ device _ h => h.checkInputs?_eq device) network_checkInputs
      declaredAt_checkInputs _ fun _ => List.snd_lt_of_mem_zipIdx

theorem Numbered.checkUnused?_eq (h : draft.Numbered) :
    draft.checkUnused? = some draft.checkUnused := by
  unfold checkUnused? Draft.checkUnused
  split
  · rfl
  · exact h.foldlM_eq (fun _ device _ h => h.checkUse?_eq device) network_checkUse
      declaredAt_checkUse _ fun _ => List.snd_lt_of_mem_zipIdx

def checks? (draft : Draft) : Option Draft :=
  draft.checkUnbound? >>= checkUnused?

/-- No look-up of a place fails. -/
theorem checks?_ofEntries (entries : List Entry) :
    (ofEntries entries).checks? = some (ofEntries entries).checkUnbound.checkUnused := by
  have h := numbered_ofEntries entries
  rw [checks?, h.checkUnbound?_eq]
  exact h.checkUnbound.checkUnused?_eq

theorem numbered_ofTokens (stream : TokenStream) : (ofTokens stream).Numbered := by
  unfold ofTokens
  split
  · have hempty : ({} : Draft).Numbered := rfl
    exact hempty.refuse stream.stop "definition is empty"
  · exact (numbered_ofEntries _).checkUnbound.checkUnused

end LogicBench.Draft
