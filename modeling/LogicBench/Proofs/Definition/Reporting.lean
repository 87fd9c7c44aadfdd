import LogicBench.Proofs.Definition.Exactness
import LogicBench.Proofs.Definition.Places
import LogicBench.Proofs.Definition.Tiling

/-!
# Every problem is reported once and in order

A diagnostic is only compared with the one before it. That is enough: entries come in the order of
their places, so that a second diagnostic at a place can only come directly behind the first, and
only problems with the grammar share a place. No item is refused where something else was, and no
accepted device is declared there.
-/

namespace LogicBench

namespace Entry

def Reports : Entry → Diagnostic → Prop
  | .opening _, _ => False
  | .item written, diagnostic => written.Reports diagnostic
  | .problem _ found, diagnostic => diagnostic = found

def DeclaresAt (entries : List Entry) (name : String) (place : Position) : Prop :=
  ∃ declared, .item (.device declared) ∈ entries ∧ declared.name = name ∧ declared.position = place

variable {entry : Entry} {item : Item} {diagnostic later : Diagnostic} {place : Position}
  {entries : List Entry} {within : Option Section}

theorem Reports.position_mem (h : entry.Reports diagnostic) :
    diagnostic.position ∈ entry.places := by
  cases entry with
  | opening opened => exact h.elim
  | item written => exact h.2
  | problem within found => exact List.mem_singleton.2 (congrArg _ h)

theorem Reports.isError (h : entry.Reports diagnostic) (hgrammatical : entry.IsGrammatical) :
    diagnostic.isError := by
  have hcategory : diagnostic.category = .semantic ∨ diagnostic.category = .syntactic := by
    cases entry with
    | opening opened => exact h.elim
    | item written => exact .inl h.1
    | problem within found =>
        obtain rfl : diagnostic = found := h
        exact .inr hgrammatical
  rw [Diagnostic.isError]
  rcases hcategory with hcategory | hcategory <;> rw [hcategory] <;> rfl

theorem Reports.lt_of_precedes (h : entry.Reports diagnostic)
    (hprecedes : entry.Precedes (.item item)) (hplace : place ∈ item.positions) :
    diagnostic.position.offset < place.offset := by
  have hmem := h.position_mem
  cases entry with
  | opening opened => exact h.elim
  | item written => exact hprecedes _ hmem place hplace
  | problem within found => exact hprecedes _ hmem place hplace

/-- What is reported of an entry is in front of a problem behind it, unless both are problems at the
same place. -/
theorem Reports.lt_or_follows (h : entry.Reports diagnostic) (hgrammatical : entry.IsGrammatical)
    (hlater : later.category = .syntactic) (hprecedes : entry.Precedes (.problem within later)) :
    diagnostic.position.offset < later.position.offset ∨ later.follows diagnostic := by
  cases entry with
  | opening opened => exact h.elim
  | item written => exact .inl (hprecedes _ h.2 _ List.mem_cons_self)
  | problem within' found =>
      obtain rfl : diagnostic = found := h
      rcases (hprecedes : Position.IsUpTo _ _) with hsame | hlt
      · right
        have hcategory : diagnostic.category = .syntactic := hgrammatical
        simp [Diagnostic.follows, Diagnostic.isSyntactic, hsame, hcategory, hlater]
      · exact .inl hlt

theorem DeclaresAt.lt_of_precedes {name : String} {declaredAt : Position}
    (h : DeclaresAt entries name declaredAt) (hprecedes : ∀ other ∈ entries, other.Precedes entry)
    (hplace : place ∈ entry.places) : declaredAt.offset < place.offset := by
  obtain ⟨declared, hmem, -, rfl⟩ := h
  have hfirst := hprecedes _ hmem
  have hposition : declared.position ∈ (Item.device declared).positions := List.mem_cons_self
  cases entry with
  | opening opened => cases hplace
  | item written => exact hfirst _ hposition place hplace
  | problem within problem => exact hfirst _ hposition place hplace

theorem DeclaresAt.mono {name : String} {others : List Entry} (h : DeclaresAt entries name place)
    (hsubset : entries ⊆ others) : DeclaresAt others name place := by
  obtain ⟨declared, hmem, hdeclared⟩ := h
  exact ⟨declared, hsubset hmem, hdeclared⟩

end Entry

namespace Draft

/-- What a draft tells of the entries applied to it: each diagnostic of one of them, in their order
and none where a device is declared. Only problems with the grammar have been dropped. -/
structure Accounts (draft : Draft) (done : List Entry) : Prop where
  sources : ∀ diagnostic ∈ draft.diagnostics, ∃ entry ∈ done, entry.Reports diagnostic
  ordered : draft.diagnostics.Pairwise fun first second =>
    first.position.offset < second.position.offset
  declared : List.Forall₂ (Entry.DeclaresAt done) (draft.network.devices.map Device.name)
    draft.declaredAt
  declaredOrdered : draft.declaredAt.Pairwise fun first second => first.offset < second.offset
  apart : ∀ diagnostic ∈ draft.diagnostics, diagnostic.position ∉ draft.declaredAt
  dropped : ∀ diagnostic, .dropped diagnostic ∈ draft.notices → diagnostic.isSyntactic

variable {draft next : Draft} {done : List Entry} {entry : Entry} {item : Item}
  {within : Option Section} {diagnostic : Diagnostic}

theorem accounts_empty : ({} : Draft).Accounts [] := by
  refine ⟨?_, .nil, .nil, .nil, ?_, ?_⟩ <;> simp

theorem Accounts.sources_append (h : draft.Accounts done) (entry : Entry) :
    ∀ diagnostic ∈ draft.diagnostics, ∃ source ∈ done ++ [entry], source.Reports diagnostic := by
  intro diagnostic hdiagnostic
  obtain ⟨source, hsource, hreports⟩ := h.sources diagnostic hdiagnostic
  exact ⟨source, List.mem_append_left _ hsource, hreports⟩

theorem Accounts.declared_append (h : draft.Accounts done) (entry : Entry) :
    List.Forall₂ (Entry.DeclaresAt (done ++ [entry])) (draft.network.devices.map Device.name)
      draft.declaredAt :=
  h.declared.imp fun _ _ hdeclares => hdeclares.mono (List.subset_append_left _ _)

theorem Accounts.silent (h : draft.Accounts done) (entry : Entry)
    (hdiagnostics : next.diagnostics = draft.diagnostics)
    (hnames : next.network.devices.map Device.name = draft.network.devices.map Device.name)
    (hdeclaredAt : next.declaredAt = draft.declaredAt)
    (hdropped : ∀ diagnostic, .dropped diagnostic ∈ next.notices →
      .dropped diagnostic ∈ draft.notices ∨ diagnostic.isSyntactic) :
    next.Accounts (done ++ [entry]) where
  sources := by
    rw [hdiagnostics]
    exact h.sources_append entry
  ordered := hdiagnostics ▸ h.ordered
  declared := by
    rw [hnames, hdeclaredAt]
    exact h.declared_append entry
  declaredOrdered := hdeclaredAt ▸ h.declaredOrdered
  apart := by
    rw [hdiagnostics, hdeclaredAt]
    exact h.apart
  dropped := fun diagnostic hmem => (hdropped diagnostic hmem).elim (h.dropped diagnostic) id

theorem Accounts.push (h : draft.Accounts done) (hreports : entry.Reports diagnostic)
    (hdiagnostics : next.diagnostics = draft.diagnostics ++ [diagnostic])
    (hnetwork : next.network = draft.network) (hdeclaredAt : next.declaredAt = draft.declaredAt)
    (hnotices : next.notices = draft.notices)
    (hbehind : ∀ previous ∈ draft.diagnostics,
      previous.position.offset < diagnostic.position.offset)
    (hprecedes : ∀ other ∈ done, other.Precedes entry) :
    next.Accounts (done ++ [entry]) where
  sources := by
    rw [hdiagnostics]
    exact List.forall_mem_append.2 ⟨h.sources_append entry, List.forall_mem_singleton.2
      ⟨entry, List.mem_append_right _ (List.mem_singleton_self _), hreports⟩⟩
  ordered := by
    rw [hdiagnostics]
    refine List.pairwise_append.2 ⟨h.ordered, List.pairwise_singleton _ _, ?_⟩
    intro previous hprevious last hlast
    rw [List.mem_singleton.1 hlast]
    exact hbehind previous hprevious
  declared := by
    rw [hnetwork, hdeclaredAt]
    exact h.declared_append entry
  declaredOrdered := hdeclaredAt ▸ h.declaredOrdered
  apart := by
    rw [hdiagnostics, hdeclaredAt]
    refine List.forall_mem_append.2 ⟨h.apart, List.forall_mem_singleton.2 fun hmem => ?_⟩
    obtain ⟨_, -, hdeclares⟩ := exists_of_forall₂ h.declared hmem
    exact Nat.lt_irrefl _ (hdeclares.lt_of_precedes hprecedes hreports.position_mem)
  dropped := hnotices ▸ h.dropped

theorem Accounts.takes (h : draft.Accounts done) (htakes : draft.Takes item next)
    (hprecedes : ∀ other ∈ done, other.Precedes (.item item)) :
    next.Accounts (done ++ [.item item]) := by
  cases htakes with
  | @device declared type kind network id htype hkind hadd =>
      obtain ⟨-, -, rfl⟩ := Network.addDevice_eq_ok_iff.1 hadd
      have hposition : declared.position ∈ (Item.device declared).positions := List.mem_cons_self
      refine ⟨h.sources_append _, h.ordered, ?_, ?_, ?_, ?_⟩
      · have hold := h.declared_append (.item (.device declared))
        have hnew : Entry.DeclaresAt (done ++ [.item (.device declared)]) declared.name
            declared.position :=
          ⟨declared, List.mem_append_right _ (List.mem_singleton_self _), rfl, rfl⟩
        have hboth := List.rel_append hold (.cons hnew .nil)
        simpa [note] using hboth
      · refine List.pairwise_append.2 ⟨h.declaredOrdered, List.pairwise_singleton _ _, ?_⟩
        intro place hplace last hlast
        obtain ⟨_, -, hdeclares⟩ := exists_of_forall₂ h.declared hplace
        rw [List.mem_singleton.1 hlast]
        exact hdeclares.lt_of_precedes hprecedes hposition
      · intro diagnostic hdiagnostic hmem
        rcases List.mem_append.1 hmem with hold | hnew
        · exact h.apart diagnostic hdiagnostic hold
        · obtain ⟨source, hsource, hreports⟩ := h.sources diagnostic hdiagnostic
          have hlt := hreports.lt_of_precedes (hprecedes source hsource) hposition
          rw [List.mem_singleton.1 hnew] at hlt
          exact Nat.lt_irrefl _ hlt
      · intro diagnostic hmem
        rcases List.mem_append.1 hmem with hold | hnew
        · exact h.dropped diagnostic hold
        · cases List.mem_singleton.1 hnew
  | connection hconnected =>
      obtain ⟨driver, id, pin, -, -, hconnect⟩ := connected_eq_ok_iff.1 hconnected
      obtain ⟨-, driven, hdriven, -, rfl⟩ := Network.connect_eq_ok_iff.1 hconnect
      exact h.silent _ rfl (Network.map_name_set _ hdriven rfl) rfl fun _ => .inl
  | signal hmonitored => exact h.silent _ rfl rfl rfl fun _ => .inl

theorem Accounts.refused (h : draft.Accounts done) {position : Position}
    (hposition : position ∈ item.positions) (message : String)
    (hprecedes : ∀ other ∈ done, other.Precedes (.item item)) :
    ((draft.beforeRefusal item).refuse position message).Accounts (done ++ [.item item]) := by
  have hbehind : ∀ previous ∈ draft.diagnostics, previous.position.offset < position.offset := by
    intro previous hprevious
    obtain ⟨source, hsource, hreports⟩ := h.sources previous hprevious
    exact hreports.lt_of_precedes (hprecedes source hsource) hposition
  have hreports : Entry.Reports (.item item) ⟨.semantic, position, message⟩ := ⟨rfl, hposition⟩
  have hbefore : (draft.beforeRefusal item).diagnostics = draft.diagnostics := by
    cases item <;> rfl
  have hfresh : ∀ previous ∈ (draft.beforeRefusal item).diagnostics,
      previous.position ≠ position := by
    intro previous hprevious hsame
    rw [hbefore] at hprevious
    exact Nat.lt_irrefl _ (hsame ▸ hbehind previous hprevious)
  rw [refuse_of_fresh hfresh, hbefore]
  refine h.push hreports rfl ?_ ?_ ?_ hbehind hprecedes
  · cases item <;> rfl
  · cases item <;> rfl
  · cases item <;> rfl

/-- A problem is reported unless the diagnostic before it is about the grammar at the same place. -/
theorem Accounts.problem (h : draft.Accounts done) (hcategory : diagnostic.category = .syntactic)
    (hgrammatical : ∀ other ∈ done, other.IsGrammatical)
    (hprecedes : ∀ other ∈ done, other.Precedes (.problem within diagnostic)) :
    (draft.report within diagnostic).Accounts (done ++ [.problem within diagnostic]) := by
  have hsyntactic : diagnostic.isSyntactic := by
    rw [Diagnostic.isSyntactic, hcategory]
    rfl
  have hlt_or (previous : Diagnostic) (hprevious : previous ∈ draft.diagnostics) :
      previous.position.offset < diagnostic.position.offset ∨ diagnostic.follows previous := by
    obtain ⟨source, hsource, hreports⟩ := h.sources previous hprevious
    exact hreports.lt_or_follows (hgrammatical source hsource) hcategory (hprecedes source hsource)
  unfold report
  split
  · refine h.silent _ rfl rfl rfl fun other hother => ?_
    rcases List.mem_append.1 hother with hold | hnew
    · exact .inl hold
    · cases List.mem_singleton.1 hnew
      exact .inr hsyntactic
  · next hfollows =>
    refine h.push rfl rfl rfl rfl rfl ?_ hprecedes
    -- Only the last diagnostic is compared; those before it are in front of it.
    rcases List.eq_nil_or_concat' draft.diagnostics with hnil | ⟨before, last, hconcat⟩
    · simp [hnil]
    · have hordered := h.ordered
      rw [hconcat, List.getLast?_concat, Option.any_some] at hfollows
      rw [hconcat] at hordered hlt_or ⊢
      have hlast := (hlt_or last (by simp)).resolve_right hfollows
      refine List.forall_mem_append.2 ⟨fun previous hprevious => ?_, by simpa using hlast⟩
      have hfront := (List.pairwise_append.1 hordered).2.2 previous hprevious last (by simp)
      exact Nat.lt_trans hfront hlast

theorem accounts_ofEntries {entries : List Entry} (hordered : entries.Pairwise Entry.Precedes)
    (hgrammatical : ∀ entry ∈ entries, entry.IsGrammatical) :
    (ofEntries entries).Accounts entries := by
  induction entries using List.reverseRecOn with
  | nil => exact accounts_empty
  | append_singleton done entry ih =>
      obtain ⟨hdone, -, hlast⟩ := List.pairwise_append.1 hordered
      obtain ⟨hbefore, hhere⟩ := List.forall_mem_append.1 hgrammatical
      have hprecedes (other : Entry) (hother : other ∈ done) : other.Precedes entry :=
        hlast other hother entry (List.mem_singleton_self entry)
      have h := ih hdone hbefore
      rw [ofEntries, List.foldl_concat]
      cases entry with
      | opening opened =>
          refine h.silent _ rfl rfl rfl fun other hother => ?_
          rcases List.mem_append.1 hother with hold | hnew
          · exact .inl hold
          · cases List.mem_singleton.1 hnew
      | item item =>
          rcases (ofEntries done).applyItem_cases item with
            htakes | ⟨position, hposition, message, hrefused⟩
          · exact h.takes htakes hprecedes
          · have hnext := h.refused hposition message hprecedes
            rwa [← hrefused] at hnext
      | problem within diagnostic =>
          exact h.problem (hhere _ (List.mem_singleton_self _)) hbefore hprecedes

end Draft

/-! ## The network as a whole -/

def Diagnostic.unusedDevice (device : Device) (place : Position) : Diagnostic where
  category := .warning
  position := place
  message := "`" ++ device.name ++ "` drives nothing and is not monitored"

/-- Whether a device drives no input and has no monitored output. -/
def Network.IsUnused (network : Network) (recorder : Recorder) (id : DeviceId) : Prop :=
  ∃ device, network.device? id = some device ∧
    (∀ other driven pin driver, network.device? other = some driven →
      driven.driver? pin = some driver → driver.device ≠ id) ∧
    ∀ point ∈ recorder.points, point.device ≠ device.name

namespace Draft

variable {draft : Draft} {done : List Entry}

def dangling (draft : Draft) : List (Device × DeviceId) :=
  if draft.connectIncomplete then [] else draft.network.devices.zipIdx.filter draft.isDangling

def isUnused (draft : Draft) (pair : Device × DeviceId) : Bool :=
  draft.network.fanout pair.2 = 0 && draft.recorder.points.all (·.device ≠ pair.1.name)

def unusedWarning (draft : Draft) (pair : Device × DeviceId) : Diagnostic :=
  .unusedDevice pair.1 (draft.declarationOf pair.2)

def unused (draft : Draft) : List (Device × DeviceId) :=
  if draft.diagnostics.any Diagnostic.isError then []
  else draft.network.devices.zipIdx.filter draft.isUnused

theorem checkUse_eq (draft : Draft) (pair : Device × DeviceId) :
    draft.checkUse pair.1 pair.2 =
      if draft.isUnused pair then draft.report none (draft.unusedWarning pair) else draft :=
  rfl

theorem Accounts.map_declarationOf (h : draft.Accounts done) :
    draft.network.devices.zipIdx.map (fun pair => draft.declarationOf pair.2) =
      draft.declaredAt := by
  have hlength : draft.network.devices.length = draft.declaredAt.length := by
    simpa using h.declared.length_eq
  apply List.ext_getElem (by simpa using hlength)
  intro id _ hid
  simp [declarationOf, List.getElem?_eq_getElem hid]

theorem Accounts.declarationOf_distinct (h : draft.Accounts done) :
    draft.network.devices.zipIdx.Pairwise fun first second =>
      draft.declarationOf first.2 ≠ draft.declarationOf second.2 := by
  have hordered := h.declaredOrdered
  rw [← h.map_declarationOf] at hordered
  refine (List.pairwise_map.1 hordered).imp fun hlt heq => ?_
  rw [heq] at hlt
  exact Nat.lt_irrefl _ hlt

theorem Accounts.declarationOf_fresh (h : draft.Accounts done) :
    ∀ pair ∈ draft.network.devices.zipIdx, ∀ previous ∈ draft.diagnostics,
      previous.position ≠ draft.declarationOf pair.2 := by
  intro pair hpair previous hprevious heq
  apply h.apart previous hprevious
  rw [← h.map_declarationOf, heq]
  exact List.mem_map_of_mem hpair

theorem Accounts.checkUnbound_eq (h : draft.Accounts done) :
    draft.checkUnbound =
      { draft with
        diagnostics := draft.diagnostics ++ draft.dangling.map draft.unboundError
        notices :=
          draft.notices ++ if draft.connectIncomplete then [.unboundSkipped] else [] } := by
  cases hincomplete : draft.connectIncomplete with
  | true => simp [checkUnbound, dangling, hincomplete, note]
  | false =>
      rw [checkUnbound, dangling, hincomplete, if_neg Bool.false_ne_true,
        foldl_checkInputs_eq h.declarationOf_fresh h.declarationOf_distinct]
      simp [hincomplete]

theorem Accounts.isError_checkUnbound (h : draft.Accounts done)
    (hgrammatical : ∀ entry ∈ done, entry.IsGrammatical) :
    ∀ diagnostic ∈ draft.checkUnbound.diagnostics, diagnostic.isError := by
  rw [h.checkUnbound_eq]
  refine List.forall_mem_append.2 ⟨fun diagnostic hfound => ?_, fun diagnostic hunbound => ?_⟩
  · obtain ⟨source, hsource, hreports⟩ := h.sources diagnostic hfound
    exact hreports.isError (hgrammatical source hsource)
  · obtain ⟨pair, -, rfl⟩ := List.mem_map.1 hunbound
    rfl

/-- Devices are only warned of where nothing has been reported. -/
theorem Accounts.checkUnused_eq (h : draft.Accounts done)
    (hgrammatical : ∀ entry ∈ done, entry.IsGrammatical) :
    let checked := draft.checkUnbound
    checked.checkUnused =
      { checked with diagnostics := checked.diagnostics ++ checked.unused.map draft.unusedWarning }
    := by
  intro checked
  have herrors := h.isError_checkUnbound hgrammatical
  rw [checkUnused, unused]
  cases hany : checked.diagnostics.any Diagnostic.isError with
  | true => simp
  | false =>
      have hnone : checked.diagnostics = [] := by
        rw [List.eq_nil_iff_forall_not_mem]
        intro diagnostic hmem
        exact List.any_eq_false.1 hany diagnostic hmem (herrors diagnostic hmem)
      have hdeclared : checked.declaredAt = draft.declaredAt := by
        show draft.checkUnbound.declaredAt = _
        rw [h.checkUnbound_eq]
      have hplace (id : DeviceId) : checked.declarationOf id = draft.declarationOf id := by
        rw [declarationOf, hdeclared]
        rfl
      have hwarning : checked.unusedWarning = draft.unusedWarning := by
        funext pair
        rw [unusedWarning, hplace]
        rfl
      have hdistinct : checked.network.devices.zipIdx.Pairwise fun first second =>
          checked.declarationOf first.2 ≠ checked.declarationOf second.2 := by
        simp only [hplace, checked, network_checkUnbound]
        exact h.declarationOf_distinct
      rw [if_neg Bool.false_ne_true, if_neg Bool.false_ne_true, ← hwarning]
      exact foldl_report_eq (fun diagnostics pair => checkUse_eq { checked with diagnostics } pair)
        (fun _ => rfl) (by simp [hnone]) hdistinct

theorem Accounts.diagnostics_checked (h : draft.Accounts done)
    (hgrammatical : ∀ entry ∈ done, entry.IsGrammatical) :
    draft.checkUnbound.checkUnused.diagnostics =
      draft.diagnostics ++ draft.dangling.map draft.unboundError ++
        draft.checkUnbound.unused.map draft.unusedWarning := by
  rw [h.checkUnused_eq hgrammatical]
  show draft.checkUnbound.diagnostics ++ _ = _
  rw [h.checkUnbound_eq]

theorem dangling_sublist (draft : Draft) : draft.dangling.Sublist draft.network.devices.zipIdx := by
  unfold dangling
  split
  · exact List.nil_sublist _
  · exact List.filter_sublist

theorem unused_sublist (draft : Draft) : draft.unused.Sublist draft.network.devices.zipIdx := by
  unfold unused
  split
  · exact List.nil_sublist _
  · exact List.filter_sublist

/-- Each of some devices is reported where nothing else is. -/
theorem Accounts.nodup_positions (h : draft.Accounts done) {pairs : List (Device × DeviceId)}
    (hpairs : pairs.Sublist draft.network.devices.zipIdx)
    (diagnosticOf : Device → Position → Diagnostic)
    (hplace : ∀ device place, (diagnosticOf device place).position = place) :
    ((draft.diagnostics ++ pairs.map fun pair =>
      diagnosticOf pair.1 (draft.declarationOf pair.2)).map (·.position)).Nodup := by
  have hplaces := hpairs.map fun pair => draft.declarationOf pair.2
  rw [h.map_declarationOf] at hplaces
  have hne {first second : Position} (hlt : first.offset < second.offset) : first ≠ second := by
    rintro rfl
    exact Nat.lt_irrefl _ hlt
  simp only [List.map_append, List.map_map, Function.comp_def, hplace]
  refine List.nodup_append.2 ⟨?_, (h.declaredOrdered.imp hne).sublist hplaces, ?_⟩
  · exact List.pairwise_map.2 (h.ordered.imp hne)
  · rintro place hfound _ hdeclared rfl
    obtain ⟨diagnostic, hdiagnostic, rfl⟩ := List.mem_map.1 hfound
    exact h.apart diagnostic hdiagnostic (hplaces.subset hdeclared)

theorem Accounts.nodup_checked (h : draft.Accounts done)
    (hgrammatical : ∀ entry ∈ done, entry.IsGrammatical) :
    (draft.checkUnbound.checkUnused.diagnostics.map (·.position)).Nodup := by
  rw [h.diagnostics_checked hgrammatical]
  by_cases hnone : draft.checkUnbound.diagnostics = []
  · rw [h.checkUnbound_eq] at hnone
    obtain ⟨hfound, hunbound⟩ := List.append_eq_nil_iff.1 hnone
    have hunused := draft.checkUnbound.unused_sublist
    rw [network_checkUnbound] at hunused
    have hnodup := h.nodup_positions hunused .unusedDevice fun _ _ => rfl
    rw [hunbound, List.append_nil]
    exact hnodup
  · obtain ⟨diagnostic, hmem⟩ := List.exists_mem_of_ne_nil _ hnone
    have hany : draft.checkUnbound.diagnostics.any Diagnostic.isError :=
      List.any_eq_true.2 ⟨diagnostic, hmem, h.isError_checkUnbound hgrammatical diagnostic hmem⟩
    rw [unused, if_pos hany, List.map_nil, List.append_nil]
    exact h.nodup_positions draft.dangling_sublist .unboundInputs fun _ _ => rfl

theorem Accounts.position_mem (h : draft.Accounts done)
    (hgrammatical : ∀ entry ∈ done, entry.IsGrammatical) {diagnostic : Diagnostic}
    (hmem : diagnostic ∈ draft.checkUnbound.checkUnused.diagnostics) :
    ∃ entry ∈ done, diagnostic.position ∈ entry.places := by
  have hdeclared {pair : Device × DeviceId} (hpair : pair ∈ draft.network.devices.zipIdx) :
      ∃ entry ∈ done, draft.declarationOf pair.2 ∈ entry.places := by
    have hplace := List.mem_map_of_mem (f := fun pair => draft.declarationOf pair.2) hpair
    rw [h.map_declarationOf] at hplace
    obtain ⟨_, -, declared, hentry, -, heq⟩ := exists_of_forall₂ h.declared hplace
    rw [← heq]
    exact ⟨_, hentry, List.mem_cons_self⟩
  rw [h.diagnostics_checked hgrammatical] at hmem
  rcases List.mem_append.1 hmem with hchecked | hunused
  · rcases List.mem_append.1 hchecked with hfound | hunbound
    · obtain ⟨source, hsource, hreports⟩ := h.sources diagnostic hfound
      exact ⟨source, hsource, hreports.position_mem⟩
    · obtain ⟨pair, hpair, rfl⟩ := List.mem_map.1 hunbound
      exact hdeclared (draft.dangling_sublist.subset hpair)
  · obtain ⟨pair, hpair, rfl⟩ := List.mem_map.1 hunused
    have hdevice := draft.checkUnbound.unused_sublist.subset hpair
    rw [network_checkUnbound] at hdevice
    exact hdeclared hdevice

theorem Accounts.dropped_checked (h : draft.Accounts done)
    (hgrammatical : ∀ entry ∈ done, entry.IsGrammatical) {diagnostic : Diagnostic}
    (hmem : .dropped diagnostic ∈ draft.checkUnbound.checkUnused.notices) :
    diagnostic.isSyntactic := by
  rw [h.checkUnused_eq hgrammatical] at hmem
  have hnotices : Notice.dropped diagnostic ∈ draft.checkUnbound.notices := hmem
  rw [h.checkUnbound_eq] at hnotices
  rcases List.mem_append.1 hnotices with hold | hskipped
  · exact h.dropped diagnostic hold
  · split at hskipped <;> simp at hskipped

theorem isUnused_iff (hwired : draft.network.WellWired) {device : Device} {id : DeviceId}
    (hdevice : draft.network.device? id = some device) :
    draft.isUnused (device, id) ↔ draft.network.IsUnused draft.recorder id := by
  have hpoints : draft.recorder.points.all (·.device ≠ device.name) ↔
      ∀ point ∈ draft.recorder.points, point.device ≠ device.name := by simp
  have hfanout : draft.network.fanout id = 0 ↔ ∀ other driven pin driver,
      draft.network.device? other = some driven → driven.driver? pin = some driver →
        driver.device ≠ id := by
    rw [Network.fanout, List.countP_eq_zero]
    constructor
    · intro hnone other driven pin driver hdriven hdriver heq
      have hwire : ⟨driver, other, pin⟩ ∈ draft.network.wires :=
        (hwired.wires driver other pin).2 ⟨driven, hdriven, hdriver⟩
      exact hnone _ hwire (by simpa using heq)
    · intro hnone wire hwire heq
      obtain ⟨driven, hdriven, hdriver⟩ := (hwired.wires _ _ _).1 hwire
      exact hnone _ _ _ _ hdriven hdriver (by simpa using heq)
  rw [isUnused, Bool.and_eq_true, decide_eq_true_iff, hpoints, hfanout]
  constructor
  · rintro ⟨hdrives, hmonitored⟩
    exact ⟨device, hdevice, hdrives, hmonitored⟩
  · rintro ⟨same, hsame, hdrives, hmonitored⟩
    cases hdevice.symm.trans hsame
    exact ⟨hdrives, hmonitored⟩

theorem unbound_ne_nil_of_mem_dangling {pair : Device × DeviceId} (h : pair ∈ draft.dangling) :
    pair.1.unbound ≠ [] := by
  unfold dangling at h
  split at h
  · cases h
  · have hdangling := List.of_mem_filter h
    simp only [isDangling, Bool.not_eq_true', Bool.or_eq_false_iff] at hdangling
    simpa using hdangling.1

theorem isUnused_checkUnbound (draft : Draft) : draft.checkUnbound.isUnused = draft.isUnused := by
  funext pair
  simp [isUnused]

theorem mem_map_snd_isUnused_iff (hwired : draft.network.WellWired) {id : DeviceId} :
    id ∈ (draft.network.devices.zipIdx.filter draft.isUnused).map Prod.snd ↔
      draft.network.IsUnused draft.recorder id := by
  rw [List.mem_map]
  constructor
  · rintro ⟨⟨device, id⟩, hpair, rfl⟩
    obtain ⟨hmem, hunused⟩ := List.mem_filter.1 hpair
    exact (isUnused_iff hwired (List.mem_zipIdx_iff_getElem?.1 hmem)).1 hunused
  · intro hunused
    obtain ⟨device, hdevice, hidle⟩ := hunused
    refine ⟨(device, id), List.mem_filter.2 ⟨List.mem_zipIdx_iff_getElem?.2 hdevice, ?_⟩, rfl⟩
    exact (isUnused_iff hwired hdevice).2 ⟨device, hdevice, hidle⟩

end Draft

namespace Definition

/-- Whether diagnostics are those of some devices, each at the declaration of its device and all in
the order of the declarations. -/
def ListsDevices (definition : Definition) (declarations : List Position)
    (diagnosticOf : Device → Position → Diagnostic) (ids : List DeviceId)
    (diagnostics : List Diagnostic) : Prop :=
  ids.Pairwise (· < ·) ∧ List.Forall₂ (fun id diagnostic => ∃ device place,
    definition.network.device? id = some device ∧ declarations[id]? = some place ∧
      diagnostic = diagnosticOf device place) ids diagnostics

/-- How the diagnostics of a definition are arranged: first those of its entries, then those of the
devices with a free input, then those of the devices that are not used. -/
structure Arranges (definition : Definition) (entries : List Entry)
    (found unbound unused : List Diagnostic) : Prop where
  all : definition.diagnostics = found ++ unbound ++ unused
  sources : ∀ diagnostic ∈ found, diagnostic.isError ∧
    ∃ entry ∈ entries, entry.Reports diagnostic
  ordered : found.Pairwise fun first second => first.position.offset < second.position.offset
  declarations : ∃ declarations : List Position,
    List.Forall₂ (Entry.DeclaresAt entries) (definition.network.devices.map Device.name)
      declarations ∧
    declarations.Pairwise (fun first second => first.offset < second.offset) ∧
    (∃ ids, definition.ListsDevices declarations .unboundInputs ids unbound ∧
      ∀ id ∈ ids, ∃ device, definition.network.device? id = some device ∧ device.HasUnbound) ∧
    ∃ ids, definition.ListsDevices declarations .unusedDevice ids unused ∧
      (definition.hasErrors → ids = []) ∧
      (definition.hasErrors = false →
        ∀ id, id ∈ ids ↔ definition.network.IsUnused definition.recorder id)

variable {definition : Definition} {draft : Draft} {done : List Entry} {source : String}

theorem listsDevices_of_accounts (h : draft.Accounts done)
    (hnetwork : definition.network = draft.network) {pairs : List (Device × DeviceId)}
    (hpairs : pairs.Sublist draft.network.devices.zipIdx)
    (diagnosticOf : Device → Position → Diagnostic) :
    definition.ListsDevices draft.declaredAt diagnosticOf (pairs.map Prod.snd)
      (pairs.map fun pair => diagnosticOf pair.1 (draft.declarationOf pair.2)) := by
  refine ⟨(Draft.pairwise_snd_zipIdx _).sublist (hpairs.map Prod.snd), ?_⟩
  rw [List.forall₂_map_left_iff, List.forall₂_map_right_iff, List.forall₂_same]
  intro pair hpair
  have hdevice := List.mem_zipIdx_iff_getElem?.1 (hpairs.subset hpair)
  refine ⟨pair.1, draft.declarationOf pair.2, ?_, ?_, rfl⟩
  · rw [hnetwork]
    exact hdevice
  · rw [← h.map_declarationOf, List.getElem?_map, List.getElem?_zipIdx, hdevice]
    simp

theorem accounts_ofSource (htokens : (TokenStream.ofSource source).tokens ≠ []) :
    let stream := TokenStream.ofSource source
    let entries := (Outline.ofTokens stream).entries
    let draft := Draft.ofEntries entries
    draft.Accounts entries ∧ draft.network.WellWired ∧
      (∀ entry ∈ entries, entry.IsGrammatical) ∧
      (∀ entry ∈ entries, entry.places ⊆ Token.places stream.stop stream.tokens) ∧
      (ofSource source).network = draft.network ∧ (ofSource source).recorder = draft.recorder ∧
      (ofSource source).diagnostics = draft.checkUnbound.checkUnused.diagnostics ∧
      ∀ diagnostic, .dropped diagnostic ∈ (read source).2 →
        .dropped diagnostic ∈ draft.checkUnbound.checkUnused.notices := by
  intro stream entries draft
  have hspans := Outline.spans_readSections none (TokenStream.pairwise_offset source)
  have hentries : entries = (Outline.readSections stream.stop none stream.tokens).entries := by
    have hempty : stream.tokens.isEmpty = false := by simpa using htokens
    simp [entries, Outline.ofTokens, hempty]
  have hdraft := Draft.ofTokens_of_ne_nil htokens
  rw [← hentries] at hdraft hspans
  refine ⟨Draft.accounts_ofEntries hspans.ordered hspans.grammatical,
    (Draft.built_ofEntries entries).wellWired, hspans.grammatical, hspans.places, ?_, ?_, ?_, ?_⟩
  · show (Draft.ofTokens stream).network = _
    rw [hdraft]
    simp [Draft.close, Draft.note, draft]
  · show (Draft.ofTokens stream).recorder = _
    rw [hdraft]
    simp [Draft.close, Draft.note, draft]
  · show (Draft.ofTokens stream).diagnostics = _
    rw [hdraft]
    rfl
  · intro diagnostic hmem
    have hnotices : .dropped diagnostic ∈ (Draft.ofTokens stream).notices := hmem
    rw [hdraft] at hnotices
    exact (List.mem_append.1 hnotices).resolve_right (by simp)

theorem read_of_tokens_eq_nil (htokens : (TokenStream.ofSource source).tokens = []) :
    let stop := (TokenStream.ofSource source).stop
    (ofSource source).diagnostics = [⟨.semantic, stop, "definition is empty"⟩] ∧
      ∀ diagnostic, .dropped diagnostic ∉ (read source).2 := by
  intro stop
  have hdraft : Draft.ofTokens (.ofSource source) =
      (({} : Draft).refuse stop "definition is empty").close := by
    rw [Draft.ofTokens, htokens]
    rfl
  refine ⟨?_, fun diagnostic hmem => ?_⟩
  · show (Draft.ofTokens (.ofSource source)).diagnostics = _
    rw [hdraft]
    rfl
  · have hnotices : .dropped diagnostic ∈ (Draft.ofTokens (.ofSource source)).notices := hmem
    rw [hdraft] at hnotices
    cases List.mem_singleton.1 hnotices

theorem position_mem_places {diagnostic : Diagnostic}
    (h : diagnostic ∈ (ofSource source).diagnostics) :
    diagnostic.position ∈
      Token.places (TokenStream.ofSource source).stop (TokenStream.ofSource source).tokens := by
  by_cases htokens : (TokenStream.ofSource source).tokens = []
  · obtain ⟨hdiagnostics, -⟩ := read_of_tokens_eq_nil htokens
    rw [hdiagnostics] at h
    rw [List.mem_singleton.1 h]
    exact List.mem_append_right _ (List.mem_singleton_self _)
  · obtain ⟨haccounts, -, hgrammatical, hplaces, -, -, hdiagnostics, -⟩ :=
      accounts_ofSource htokens
    rw [hdiagnostics] at h
    obtain ⟨entry, hentry, hplace⟩ := haccounts.position_mem hgrammatical h
    exact hplaces entry hentry hplace

/-- The diagnostics of an account are arranged by what they tell. -/
theorem arranges_of_accounts (h : draft.Accounts done)
    (hgrammatical : ∀ entry ∈ done, entry.IsGrammatical) (hwired : draft.network.WellWired)
    (hnetwork : definition.network = draft.network)
    (hrecorder : definition.recorder = draft.recorder)
    (hdiagnostics : definition.diagnostics = draft.checkUnbound.checkUnused.diagnostics) :
    ∃ found unbound unused, definition.Arranges done found unbound unused := by
  have hunused := draft.checkUnbound.unused_sublist
  rw [Draft.network_checkUnbound] at hunused
  rw [h.diagnostics_checked hgrammatical] at hdiagnostics
  have hunusedError : definition.hasErrors =
      draft.checkUnbound.diagnostics.any Diagnostic.isError := by
    have hwarnings : (draft.checkUnbound.unused.map draft.unusedWarning).any Diagnostic.isError =
        false := by
      simp only [List.any_map, List.any_eq_false, Function.comp_def]
      intro pair _
      exact Bool.false_ne_true
    rw [hasErrors, hdiagnostics, List.any_append, hwarnings, Bool.or_false, h.checkUnbound_eq]
  refine ⟨draft.diagnostics, draft.dangling.map draft.unboundError,
    draft.checkUnbound.unused.map draft.unusedWarning, hdiagnostics, ?_, h.ordered,
    draft.declaredAt, ?_, h.declaredOrdered, ⟨draft.dangling.map Prod.snd, ?_, ?_⟩,
    draft.checkUnbound.unused.map Prod.snd, ?_, ?_, ?_⟩
  · intro diagnostic hfound
    obtain ⟨source, hsource, hreports⟩ := h.sources diagnostic hfound
    exact ⟨hreports.isError (hgrammatical source hsource), source, hsource, hreports⟩
  · rw [hnetwork]
    exact h.declared
  · exact listsDevices_of_accounts h hnetwork draft.dangling_sublist .unboundInputs
  · intro id hid
    obtain ⟨⟨device, id⟩, hpair, rfl⟩ := List.mem_map.1 hid
    have hdevice := List.mem_zipIdx_iff_getElem?.1 (draft.dangling_sublist.subset hpair)
    refine ⟨device, hnetwork ▸ hdevice, (Device.hasUnbound_iff (hwired.shaped hdevice)).2 ?_⟩
    exact Draft.unbound_ne_nil_of_mem_dangling hpair
  · exact listsDevices_of_accounts h hnetwork hunused .unusedDevice
  · intro herrors
    rw [hunusedError] at herrors
    rw [Draft.unused, if_pos herrors]
    rfl
  · intro herrors id
    rw [hunusedError] at herrors
    rw [Draft.unused, if_neg (by simp [herrors]), hnetwork, hrecorder, Draft.network_checkUnbound,
      Draft.isUnused_checkUnbound]
    exact Draft.mem_map_snd_isUnused_iff hwired

/-- Every problem is reported once and in order. No two diagnostics are at the same place, each is
at the place of a token or at the end of the text, and none that concerns the meaning is dropped. A
text without tokens is reported as empty. Otherwise those found in reading come first, from the
front of the text to its end, then those of inputs without a driver and those of devices that are
not used, both in declaration order. A definition with errors has no warnings, another one has a
warning for each device that is not used. -/
theorem diagnostics_in_order (source : String) :
    let stream : TokenStream := .ofSource source
    let definition := ofSource source
    (definition.diagnostics.map (·.position)).Nodup ∧
      (∀ diagnostic ∈ definition.diagnostics,
        diagnostic.position ∈ Token.places stream.stop stream.tokens) ∧
      (∀ diagnostic, .dropped diagnostic ∈ (read source).2 → diagnostic.isSyntactic) ∧
      (stream.tokens = [] ∧
          definition.diagnostics = [⟨.semantic, stream.stop, "definition is empty"⟩] ∨
        stream.tokens ≠ [] ∧ ∃ found unbound unused,
          definition.Arranges (Outline.ofTokens stream).entries found unbound unused) := by
  intro stream definition
  by_cases htokens : stream.tokens = []
  · obtain ⟨hdiagnostics, hnotices⟩ := read_of_tokens_eq_nil htokens
    refine ⟨?_, fun _ => position_mem_places, ?_, .inl ⟨htokens, hdiagnostics⟩⟩
    · show ((ofSource source).diagnostics.map _).Nodup
      rw [hdiagnostics]
      exact List.nodup_singleton _
    · exact fun diagnostic hmem => absurd hmem (hnotices diagnostic)
  · obtain ⟨haccounts, hwired, hgrammatical, -, hnetwork, hrecorder, hdiagnostics, hdropped⟩ :=
      accounts_ofSource htokens
    refine ⟨?_, fun _ => position_mem_places, fun diagnostic hmem => ?_, .inr ⟨htokens, ?_⟩⟩
    · show ((ofSource source).diagnostics.map _).Nodup
      rw [hdiagnostics]
      exact haccounts.nodup_checked hgrammatical
    · exact haccounts.dropped_checked hgrammatical (hdropped diagnostic hmem)
    · exact arranges_of_accounts haccounts hgrammatical hwired hnetwork hrecorder hdiagnostics

end Definition

end LogicBench
