import LogicBench.Proofs.Definition.Reordering
import LogicBench.Proofs.Definition.Spacing
import LogicBench.Proofs.Simulator.Restart

/-!
# Switches declared in other states

The qualifiers of the switches in a text without errors can be written anew. The text stays without
errors and describes the same circuit, with the switches in the states now written.
-/

namespace LogicBench

open Token (kinds)
open Elaboration (Elaborates)

def bitText (state : Bool) : String :=
  if state then "1" else "0"

/-- The tokens with the qualifiers of some switches replaced: where `states` has a state for the
name of a switch, that state is declared, whatever was. -/
def Token.withSwitches (states : String → Option Bool) : List Token → List Token
  | ⟨.name name, first⟩ :: ⟨.colon, second⟩ :: ⟨.keyword (.device .switch), third⟩ ::
      ⟨.number digits, fourth⟩ :: rest =>
    ⟨.name name, first⟩ :: ⟨.colon, second⟩ :: ⟨.keyword (.device .switch), third⟩ ::
      ⟨.number ((states name).elim digits bitText), fourth⟩ :: withSwitches states rest
  | token :: rest => token :: withSwitches states rest
  | [] => []

def DeviceDeclaration.withSwitches (states : String → Option Bool) (declared : DeviceDeclaration) :
    DeviceDeclaration :=
  { declared with
    qualifier :=
      if declared.kind = .known .switch then
        declared.qualifier.map fun qualifier =>
          { qualifier with digits := (states declared.name).elim qualifier.digits bitText }
      else declared.qualifier }

def Item.withSwitches (states : String → Option Bool) : Item → Item
  | .device declared => .device (declared.withSwitches states)
  | item => item

/-! ## Tokens -/

namespace Token

variable {states : String → Option Bool} {tokens rest : List Token} {token : Token}

theorem withSwitches_cons (hterminator : token.isTerminator) (rest : List Token) :
    withSwitches states (token :: rest) = token :: withSwitches states rest := by
  rw [withSwitches]
  rintro name first second third digits fourth behind rfl -
  cases hterminator

/-- No declaration reaches across the end of an item. -/
theorem withSwitches_append (hterminator : token.isTerminator) (tokens rest : List Token) :
    withSwitches states (tokens ++ token :: rest) =
      withSwitches states tokens ++ token :: withSwitches states rest := by
  fun_induction withSwitches states tokens with
  | case1 name first second third digits fourth behind ih =>
      simp only [List.cons_append, withSwitches, ih]
  | case2 first behind hnot ih =>
      rw [List.cons_append, withSwitches, ih]
      · rfl
      · -- The pattern would have to end in front of the terminator, where it was not found.
        intro name place second third digits fourth other hname hbehind
        rcases behind with _ | ⟨colon, _ | ⟨word, _ | ⟨number, more⟩⟩⟩
        · cases hbehind
          cases hterminator
        · cases hbehind
          cases hterminator
        · cases hbehind
          cases hterminator
        · cases hbehind
          exact hnot name place second third digits fourth more hname rfl
  | case3 => exact withSwitches_cons hterminator rest

theorem withSwitches_eq_self (h : ∀ token ∈ tokens, ∀ digits, token.kind ≠ .number digits) :
    withSwitches states tokens = tokens := by
  fun_induction withSwitches states tokens with
  | case1 name first second third digits fourth rest ih =>
      have hnumber : (⟨.number digits, fourth⟩ : Token) ∈ ⟨.name name, first⟩ :: ⟨.colon, second⟩ ::
          ⟨.keyword (.device .switch), third⟩ :: ⟨.number digits, fourth⟩ :: rest := by simp
      exact absurd rfl (h _ hnumber digits)
  | case2 token rest _ ih => rw [ih (List.forall_mem_cons.1 h).2]
  | case3 => rfl

theorem forall₂_withSwitches (states : String → Option Bool) (tokens : List Token) :
    List.Forall₂ (fun old new => new.kind = old.kind ∨
      ∃ digits state, old.kind = .number digits ∧ new.kind = .number (bitText state))
      tokens (withSwitches states tokens) := by
  fun_induction withSwitches states tokens with
  | case1 name first second third digits fourth rest ih =>
      refine .cons (.inl rfl) (.cons (.inl rfl) (.cons (.inl rfl) (.cons ?_ ih)))
      cases states name with
      | none => exact .inl rfl
      | some state => exact .inr ⟨digits, state, rfl, rfl⟩
  | case2 token rest _ ih => exact .cons (.inl rfl) ih
  | case3 => exact .nil

theorem filterMap_name?_eq {others : List Token} (h : kinds others = kinds tokens) :
    others.filterMap name? = tokens.filterMap name? := by
  have hunplaced (tokens : List Token) :
      (tokens.map unplaced).filterMap name? = tokens.filterMap name? :=
    @filterMap_name?_move (fun _ => .start) tokens
  rw [← hunplaced others, map_unplaced_eq h, hunplaced]

theorem filterMap_name?_withSwitches (states : String → Option Bool) (tokens : List Token) :
    (withSwitches states tokens).filterMap name? = tokens.filterMap name? := by
  fun_induction withSwitches states tokens with
  | case1 name first second third digits fourth rest ih => simp [List.filterMap_cons, name?, ih]
  | case2 token rest _ ih => rw [List.filterMap_cons, List.filterMap_cons, ih]
  | case3 => rfl

/-- The replaced tokens are those of a text. -/
theorem exists_source_withSwitches (states : String → Option Bool) (source : String) :
    ∃ edited, kinds (TokenStream.ofSource edited).tokens =
      kinds (withSwitches states (TokenStream.ofSource source).tokens) := by
  have hall := forall₂_withSwitches states (TokenStream.ofSource source).tokens
  set tokens := withSwitches states (TokenStream.ofSource source).tokens
  have hproper : ∀ kind ∈ kinds tokens, kind.Proper := by
    intro kind hkind
    obtain ⟨new, hnew, rfl⟩ := List.mem_map.1 hkind
    obtain ⟨old, hold, hsame | ⟨digits, state, -, hnumber⟩⟩ := Draft.exists_of_forall₂ hall hnew
    · rw [hsame]
      exact TokenStream.proper_of_mem hold
    · rw [hnumber]
      cases state <;> simp [TokenKind.Proper, bitText]
  have hclosed : ∀ kind ∈ (kinds tokens).dropLast, ∀ body, kind ≠ .openComment body := by
    rintro kind hkind body rfl
    rw [kinds, ← List.map_dropLast, List.dropLast_eq_take, ← hall.length_eq] at hkind
    obtain ⟨new, hnew, hopen⟩ := List.mem_map.1 hkind
    obtain ⟨old, hold, hsame | ⟨digits, state, -, hnumber⟩⟩ :=
      Draft.exists_of_forall₂ (List.forall₂_take _ hall) hnew
    · rw [← List.dropLast_eq_take] at hold
      have hlast : old.kind ∈ ((TokenStream.ofSource source).tokens.map Token.kind).dropLast := by
        rw [← List.map_dropLast]
        exact List.mem_map_of_mem hold
      exact TokenStream.ne_openComment_of_mem_dropLast hlast body (hsame.symm.trans hopen)
    · cases hopen.symm.trans hnumber
  have hgap : Layout [' '] := .cons (.blank rfl) .nil
  obtain ⟨placed, htiles, hkinds⟩ :=
    (spaced_intercalate hgap (by decide) (kinds tokens)).exists_tiles hproper hclosed .nil []
  refine ⟨String.ofList ([' '].intercalate ((kinds tokens).map TokenKind.spelling)), ?_⟩
  have hplaced := htiles.place_eq
  rw [TokenStream.ofSource, String.toList_ofList, Position.start_eq_behind]
  rw [List.nil_append] at hplaced
  rw [hplaced]
  exact hkinds

end Token

/-! ## Items -/

theorem Reference.SpelledBy.ne_number {reference : Reference} {tokens : List Token}
    (h : reference.SpelledBy tokens) : ∀ token ∈ tokens, ∀ digits, token.kind ≠ .number digits := by
  cases h <;> simp

namespace Item

variable {states : String → Option Bool} {within : Section} {item : Item} {items : List Item}
  {tokens : List Token}

theorem SpelledBy.withSwitches (h : item.SpelledBy within tokens) :
    (item.withSwitches states).SpelledBy within (Token.withSwitches states tokens) := by
  cases h with
  | @device name position colon kind token qualifier tokens hkind hqualifier =>
      obtain ⟨word, place⟩ := token
      cases hkind with
      | known type =>
          cases hqualifier with
          | none =>
              cases type <;>
                exact @SpelledBy.device name position colon _ ⟨_, place⟩ _ _ (.known _) .none
          | some digits behind =>
              cases type <;>
                exact @SpelledBy.device name position colon _ ⟨_, place⟩ _ _ (.known _)
                  (.some _ behind)
      | unknown word =>
          cases hqualifier with
          | none =>
              exact @SpelledBy.device name position colon _ ⟨_, place⟩ _ _ (.unknown word) .none
          | some digits behind =>
              exact @SpelledBy.device name position colon _ ⟨_, place⟩ _ _ (.unknown word)
                (.some digits behind)
  | @connection source destination left right arrow hsource hdestination =>
      have hnone : ∀ token ∈ left ++ ⟨.arrow, arrow⟩ :: right, ∀ digits,
          token.kind ≠ .number digits := by
        refine List.forall_mem_append.2 ⟨hsource.ne_number, List.forall_mem_cons.2 ⟨?_, ?_⟩⟩
        · exact fun digits => nofun
        · exact hdestination.ne_number
      rw [Token.withSwitches_eq_self hnone]
      exact .connection hsource hdestination
  | signal h =>
      rw [Token.withSwitches_eq_self h.ne_number]
      exact .signal h

theorem ListSpelledBy.withSwitches (h : ListSpelledBy within items tokens) :
    ListSpelledBy within (items.map (Item.withSwitches states))
      (Token.withSwitches states tokens) := by
  induction h with
  | last h =>
      rw [Token.withSwitches_append rfl]
      exact .last h.withSwitches
  | more h _ ih =>
      rw [Token.withSwitches_append rfl]
      exact .more h.withSwitches ih

theorem BodySpelledBy.withSwitches (h : BodySpelledBy within items tokens) :
    BodySpelledBy within (items.map (Item.withSwitches states))
      (Token.withSwitches states tokens) := by
  cases h with
  | items h => exact .items h.withSwitches
  | noConnections semicolon => exact .noConnections semicolon
  | noSignals semicolon => exact .noSignals semicolon

theorem SectionsSpelledBy.withSwitches {last : Option Section}
    (h : SectionsSpelledBy last items tokens) :
    SectionsSpelledBy last (items.map (Item.withSwitches states))
      (Token.withSwitches states tokens) := by
  induction h with
  | finish => exact .finish
  | @opening last opened position items rest tokens behind horder hbody _ ih =>
      have hnew : BodySpelledBy opened (items.map (Item.withSwitches states))
        (Token.withSwitches states tokens) := hbody.withSwitches
      obtain ⟨listed, semicolon, rfl, -⟩ := hbody.exists_semicolon
      rw [Token.withSwitches_append rfl] at hnew
      have hall := @SectionsSpelledBy.opening last opened position _ _ _ _ horder hnew ih
      rw [List.map_append, List.cons_append, Token.withSwitches_cons rfl, List.append_assoc,
        List.singleton_append, Token.withSwitches_append rfl]
      simpa [Token.withSwitches] using hall

end Item

/-! ## Devices -/

namespace DeviceKind

theorem DescribedBy.withSwitch {kind : DeviceKind} {type : DeviceType} {digits : Option String}
    (h : kind.DescribedBy type digits) (state : Bool) :
    (kind.withSwitch state).DescribedBy type
      (if type = .switch then digits.map fun _ => bitText state else digits) := by
  cases h with
  | low | high =>
      cases state with
      | false => exact .low
      | true => exact .high
  | gate hlow hhigh => exact .gate hlow hhigh
  | clock h => exact .clock h
  | generator hsome hbits => exact .generator hsome hbits
  | xor => exact .xor
  | not => exact .not
  | flipFlop => exact .flipFlop

end DeviceKind

def Device.withSwitches (states : String → Option Bool) (device : Device) : Device :=
  if device.type = .switch then (states device.name).elim device device.startWith else device

/-- The network as declared with some switches in other states. -/
def Network.withSwitches (states : String → Option Bool) (network : Network) : Network :=
  { network with devices := network.devices.map (Device.withSwitches states) }

namespace Device

variable (states : String → Option Bool) (device : Device)

theorem withSwitches_cases : device.withSwitches states = device ∨
    ∃ state, device.withSwitches states = device.startWith state := by
  unfold withSwitches
  split
  · cases states device.name with
    | none => exact .inl rfl
    | some state => exact .inr ⟨state, rfl⟩
  · exact .inl rfl

@[simp] theorem bare_withSwitches : (device.withSwitches states).bare = device.bare := by
  rcases device.withSwitches_cases states with hsame | ⟨state, hstart⟩
  · rw [hsame]
  · rw [hstart, bare_startWith]

@[simp] theorem name_withSwitches : (device.withSwitches states).name = device.name := by
  rcases device.withSwitches_cases states with hsame | ⟨state, hstart⟩
  · rw [hsame]
  · rw [hstart]
    rfl

@[simp] theorem inputs_withSwitches : (device.withSwitches states).inputs = device.inputs := by
  rcases device.withSwitches_cases states with hsame | ⟨state, hstart⟩
  · rw [hsame]
  · rw [hstart]
    rfl

theorem outputPins_withSwitches :
    (device.withSwitches states).outputs.pins = device.outputs.pins := by
  rcases device.withSwitches_cases states with hsame | ⟨state, hstart⟩
  · rw [hsame]
  · rw [hstart]
    simp [startWith, coldStart, PinMap.pins, Function.comp_def]

theorem withSwitches_setInputs (inputs : PinMap InputPin (Option Driver)) :
    withSwitches states { device with inputs } =
      { device.withSwitches states with inputs } := by
  have htype : type { device with inputs } = device.type := rfl
  rw [withSwitches, withSwitches, htype]
  dsimp only
  split
  · cases states device.name <;> rfl
  · rfl

theorem withSwitches_ofKind (name : String) (kind : DeviceKind) :
    (ofKind name kind).withSwitches states =
      ofKind name ((states name).elim kind kind.withSwitch) := by
  rw [withSwitches, type_ofKind, name_ofKind]
  cases states name with
  | none => simp
  | some state =>
      split
      · exact startWith_ofKind name kind state
      · next htype => cases kind <;> first | rfl | exact absurd rfl htype

end Device

/-! ## Elaboration -/

namespace Network

variable (states : String → Option Bool) (network : Network)

theorem device?_withSwitches (id : DeviceId) : (network.withSwitches states).device? id =
    (network.device? id).map (Device.withSwitches states) :=
  List.getElem?_map ..

theorem names_withSwitches :
    (network.withSwitches states).devices.map Device.name = network.devices.map Device.name := by
  simp [withSwitches, Function.comp_def]

@[simp] theorem bare_withSwitches : (network.withSwitches states).bare = network.bare := by
  simp [withSwitches, bare, Function.comp_def]

end Network

theorem DeviceDeclaration.digits_withSwitches (states : String → Option Bool)
    (declared : DeviceDeclaration) :
    (declared.withSwitches states).qualifier.map (·.digits) =
      if declared.kind = .known .switch then
        (declared.qualifier.map (·.digits)).map fun digits =>
          (states declared.name).elim digits bitText
      else declared.qualifier.map (·.digits) := by
  rw [withSwitches]
  split
  · rw [Option.map_map, Option.map_map]
    rfl
  · rfl

namespace Reference

variable {network : Network} {reference other : Reference} {states : String → Option Bool}

theorem Names.withSwitches {κ : Type} {pins : Device → List κ} {ofPin : κ → Pin} {id : DeviceId}
    {pin : κ} (h : reference.Names network pins ofPin id pin)
    (hpins : ∀ device, pins (device.withSwitches states) = pins device)
    (hmove : other.move (fun _ => .start) = reference.move fun _ => .start) :
    other.Names (network.withSwitches states) pins ofPin id pin := by
  obtain ⟨device, hdevice, hname, hpin⟩ := h
  obtain ⟨owner, asked, place⟩ := other
  obtain ⟨rfl, rfl, -⟩ := Reference.mk.inj hmove
  refine ⟨device.withSwitches states, ?_, ?_, ?_⟩
  · rw [Network.device?_withSwitches, hdevice, Option.map_some]
  · rw [Device.name_withSwitches, hname]
  · simpa only [hpins] using hpin

end Reference

namespace Elaboration

variable {before after last start : Elaboration} {item other : Item} {items others : List Item}
  {states : String → Option Bool}

theorem Accepts.withSwitches (h : before.Accepts item after)
    (hitem : other.unplaced = (item.withSwitches states).unplaced)
    (hnetwork : start.network = before.network.withSwitches states)
    (hrecorder : start.recorder = before.recorder) :
    ∃ next, start.Accepts other next ∧ next.network = after.network.withSwitches states ∧
      next.recorder = after.recorder := by
  cases h with
  | @device declared type kind hkind hqualifier hnew =>
      cases other with
      | device renewed =>
          obtain ⟨hname, -, hword, -, hdigits⟩ := DeviceDeclaration.mk.inj (Item.device.inj hitem)
          have hdescribed : ((states declared.name).elim kind kind.withSwitch).DescribedBy type
              (renewed.qualifier.map (·.digits)) := by
            have hsame : renewed.qualifier.map (·.digits) =
                (declared.withSwitches states).qualifier.map (·.digits) := by
              have hmap := congrArg (Option.map (·.digits)) hdigits
              rwa [Option.map_map, Option.map_map] at hmap
            rw [hsame, DeviceDeclaration.digits_withSwitches, hkind]
            cases states declared.name with
            | none => simpa [Function.comp_def] using hqualifier
            | some state => simpa using hqualifier.withSwitch state
          have hfresh : renewed.name ∉ start.network.devices.map Device.name := by
            rw [hnetwork, Network.names_withSwitches]
            exact fun hmem => hnew (hname ▸ hmem)
          refine ⟨_, .device (hword.trans hkind) hdescribed hfresh, ?_, hrecorder⟩
          rw [hnetwork, show renewed.name = declared.name from hname]
          simp [Network.withSwitches, Device.withSwitches_ofKind]
      | connection _ _ => cases hitem
      | signal _ => cases hitem
  | @connection source destination driver id pin device hsource hdestination hdevice hunbound =>
      cases other with
      | connection resource redestination =>
          obtain ⟨hresource, hredestination⟩ := Item.connection.inj hitem
          have hwired : start.network.device? id = some (device.withSwitches states) := by
            rw [hnetwork, Network.device?_withSwitches, hdevice, Option.map_some]
          have hfree : (device.withSwitches states).driver? pin = none := by
            rw [Device.driver?, Device.inputs_withSwitches]
            exact hunbound
          have hfrom : resource.NamesOutput start.network driver := by
            rw [hnetwork]
            exact hsource.withSwitches (fun device => device.outputPins_withSwitches states)
              hresource
          have hto : redestination.NamesInput start.network id pin := by
            rw [hnetwork]
            exact hdestination.withSwitches (fun device => by rw [Device.inputs_withSwitches])
              hredestination
          refine ⟨_, .connection hfrom hto hwired hfree, ?_, hrecorder⟩
          rw [hnetwork]
          simp only [Network.withSwitches, List.map_set, Device.withSwitches_setInputs,
            Device.inputs_withSwitches]
      | device _ => cases hitem
      | signal _ => cases hitem
  | @signal reference driver hnames hnew hroom =>
      cases other with
      | signal rereference =>
          have hmove := Item.signal.inj hitem
          have hfrom : rereference.NamesOutput start.network driver := by
            rw [hnetwork]
            exact hnames.withSwitches (fun device => device.outputPins_withSwitches states) hmove
          have howner : rereference.device = reference.device := (Reference.mk.inj hmove).1
          refine ⟨_, .signal hfrom ?_ ?_, hnetwork, ?_⟩
          · rw [hrecorder, howner]
            exact hnew
          · rw [hrecorder]
            exact hroom
          · rw [hrecorder, hnetwork, howner]
            rfl
      | device _ => cases hitem
      | connection _ _ => cases hitem

theorem Elaborates.withSwitches (h : Elaborates before items last) (hrejected : last.rejected = [])
    (hitems : others.map Item.unplaced = (items.map (Item.withSwitches states)).map Item.unplaced)
    (hnetwork : start.network = before.network.withSwitches states)
    (hrecorder : start.recorder = before.recorder) (hnone : start.rejected = []) :
    ∃ final, Elaborates start others final ∧ final.network = last.network.withSwitches states ∧
      final.recorder = last.recorder ∧ final.rejected = [] := by
  induction h generalizing start others with
  | nil =>
      obtain rfl := List.map_eq_nil_iff.1 hitems
      exact ⟨start, .nil, hnetwork, hrecorder, hnone⟩
  | accept haccepts _ ih =>
      obtain ⟨other, rest, rfl, hother, hrest⟩ := List.map_eq_cons_iff.1 hitems
      obtain ⟨next, hnext, hgrown, hsame⟩ := haccepts.withSwitches hother hnetwork hrecorder
      obtain ⟨final, hfinal, hlast⟩ :=
        ih hrejected hrest hgrown hsame (hnext.rejected.trans hnone)
      exact ⟨final, .accept hnext hfinal, hlast⟩
  | @reject before last item items _ hrest _ =>
      have hmem := hrest.subset.1 (List.mem_append_right _ (List.mem_singleton_self item))
      rw [hrejected] at hmem
      cases hmem

end Elaboration

/-! ## Definitions -/

namespace Definition

variable {source edited : String} {states : String → Option Bool}

/-- A text without errors in which the qualifiers of some switches are replaced has no errors
either, and describes the same definition but for the states of these switches. -/
theorem withSwitches_of_edited (hvalid : (ofSource source).errors = [])
    (h : kinds (TokenStream.ofSource edited).tokens =
      kinds (Token.withSwitches states (TokenStream.ofSource source).tokens)) :
    (ofSource edited).errors = [] ∧
      (ofSource edited).network = (ofSource source).network.withSwitches states ∧
      (ofSource edited).recorder = (ofSource source).recorder ∧
      (ofSource edited).names = (ofSource source).names := by
  obtain ⟨items, last, hspelled, helaborates, hnetwork, hrecorder, hrejected, hbound⟩ :=
    exists_elaborates_of_no_errors hvalid
  obtain ⟨others, hothers, hunplaced⟩ := hspelled.withSwitches.exists_of_kinds_eq h
  obtain ⟨final, hfinal, hfinalNetwork, hfinalRecorder, hnone⟩ :=
    helaborates.withSwitches hrejected hunplaced rfl rfl rfl
  obtain ⟨hsameNetwork, hsameRecorder, hexplains⟩ := elaborates_ofSource hothers hfinal
  refine ⟨?_, ?_, ?_, ?_⟩
  · obtain ⟨refusals, unbound, ids, herrors, hrefusals, -, hdangles, hreports⟩ := hexplains
    rw [hnone, List.forall₂_nil_left_iff] at hrefusals
    have hids : ids = [] := by
      rw [List.eq_nil_iff_forall_not_mem]
      intro id hid
      obtain ⟨renewed, hrenewed, ⟨pin, hinput, hfree⟩, -⟩ := (hdangles id).1 hid
      rw [hfinalNetwork, Network.device?_withSwitches, Option.map_eq_some_iff] at hrenewed
      obtain ⟨device, hdevice, rfl⟩ := hrenewed
      rw [Device.hasInput, Device.inputs_withSwitches] at hinput
      rw [Device.driver?, Device.inputs_withSwitches] at hfree
      exact hbound id device hdevice ⟨pin, hinput, hfree⟩
    rw [hids, List.forall₂_nil_left_iff] at hreports
    rw [herrors, hrefusals, hreports]
    rfl
  · rw [hsameNetwork, hfinalNetwork, hnetwork]
  · rw [hsameRecorder, hfinalRecorder, hrecorder]
  · rw [names_of_sectionsSpelledBy hspelled, names_of_sectionsSpelledBy hothers,
      Names.lookupTokens, Names.lookupTokens, Token.filterMap_name?_eq h,
      Token.filterMap_name?_withSwitches]

end Definition

end LogicBench
