import LogicBench.Proofs.Definition.Drafting
import LogicBench.Proofs.Definition.Items
import LogicBench.Proofs.Definition.Segments

/-!
# Handles of names

Whatever is wrong with a text, each item that is read from it is spelled by tokens that reading has
asked for, and so the names in it are in the table of names. In particular each device of a
definition is declared by such an item: its name is an identifier, and has a handle.
-/

namespace LogicBench

/-! ## Looking names up -/

namespace Names

variable {names : Names} {text : String} {handle : Handle}

theorem query_lookup_self (names : Names) (text : String) :
    (names.lookup text).2.query text = some (names.lookup text).1 := by
  unfold lookup
  cases hquery : names.query text with
  | some handle => exact hquery
  | none =>
      have hnew : names.texts.findIdx? (fun known => known = text) = none := hquery
      simp [query, List.findIdx?_append, hnew]

/-- Handles are never given anew. -/
theorem query_lookup_of_query (h : names.query text = some handle) (other : String) :
    (names.lookup other).2.query text = some handle := by
  unfold lookup
  cases names.query other with
  | some _ => exact h
  | none =>
      have hold : names.texts.findIdx? (fun known => known = text) = some handle := h
      simp [query, List.findIdx?_append, hold]

theorem query_lookupAll_of_query (h : names.query text = some handle) (texts : List String) :
    (names.lookupAll texts).2.query text = some handle := by
  induction texts generalizing names with
  | nil => exact h
  | cons other rest ih => exact ih (query_lookup_of_query h other)

theorem exists_query_lookupAll (names : Names) {texts : List String} (h : text ∈ texts) :
    ∃ handle, (names.lookupAll texts).2.query text = some handle := by
  induction texts generalizing names with
  | nil => cases h
  | cons other rest ih =>
      rcases List.mem_cons.1 h with rfl | hrest
      · exact ⟨_, query_lookupAll_of_query (names.query_lookup_self text) rest⟩
      · exact ih (names.lookup other).2 hrest

theorem lookupAll_append (names : Names) (first second : List String) :
    (names.lookupAll (first ++ second)).2 =
      ((names.lookupAll first).2.lookupAll second).2 := by
  induction first generalizing names with
  | nil => rfl
  | cons other rest ih => exact ih (names.lookup other).2

theorem mem_texts_lookup (names : Names) (other : String) :
    text ∈ (names.lookup other).2.texts ↔ text ∈ names.texts ∨ text = other := by
  unfold lookup
  cases hquery : names.query other with
  | some handle =>
      have hmem : other ∈ names.texts := List.mem_of_getElem? (text?_of_query hquery)
      constructor
      · exact .inl
      · rintro (hold | rfl)
        · exact hold
        · exact hmem
  | none => simp

theorem mem_texts_lookupAll (names : Names) (texts : List String) :
    text ∈ (names.lookupAll texts).2.texts ↔ text ∈ names.texts ∨ text ∈ texts := by
  induction texts generalizing names with
  | nil => simp [lookupAll]
  | cons other rest ih =>
      have hrest := ih (names.lookup other).2
      rw [mem_texts_lookup] at hrest
      rw [List.mem_cons, ← or_assoc]
      exact hrest

theorem nodup_texts_lookupAll (h : names.texts.Nodup) (texts : List String) :
    (names.lookupAll texts).2.texts.Nodup := by
  induction texts generalizing names with
  | nil => exact h
  | cons other rest ih =>
      have hfirst : (names.lookup other).2.texts.Nodup := by
        unfold lookup
        cases hquery : names.query other with
        | some handle => exact h
        | none =>
            have hnew : other ∉ names.texts := by
              intro hmem
              have hnone := List.findIdx?_eq_none_iff.1 hquery other hmem
              simp at hnone
            exact h.append (List.nodup_singleton _) (List.disjoint_singleton.2 hnew)
      exact ih hfirst

end Names

/-! ## The tokens of items -/

theorem Item.Parts.exists_name {parts : List (Item × List Token)} {items : List Item}
    {tokens : List Token} (h : Parts parts items tokens) {declared : DeviceDeclaration}
    (hitem : .device declared ∈ items) : ∃ token ∈ tokens, token.kind = .name declared.name := by
  rw [← h.items] at hitem
  obtain ⟨part, hpart, hfirst⟩ := List.mem_map.1 hitem
  obtain ⟨within, hspelled⟩ := h.spelled part hpart
  have hsubset : ∀ token ∈ part.2, token ∈ tokens := fun token htoken =>
    h.sublist.subset (List.mem_flatMap.2 ⟨part, hpart, htoken⟩)
  rw [hfirst] at hspelled
  generalize part.2 = used at hspelled hsubset
  cases hspelled with
  | device hkind hqualifier => exact ⟨_, hsubset _ List.mem_cons_self, rfl⟩

namespace Outline

open Item (Parts)

variable {stop : Position} {within : Section}

@[simp] theorem items_missingSemicolon (stop : Position) (within : Section) (isComplete : Bool)
    (tokens : List Token) : items (missingSemicolon stop within isComplete tokens) = [] := by
  unfold missingSemicolon
  split <;> rfl

@[simp] theorem items_orderProblems (last : Option Section) (opened : Section)
    (position : Position) : items (orderProblems last opened position) = [] := by
  unfold orderProblems
  split <;> split <;> rfl

@[simp] theorem items_readEnd (stop : Position) (last : Option Section) (keyword : Token)
    (rest : List Token) : items (readEnd stop last keyword rest).entries = [] := by
  unfold readEnd
  cases last.isNone <;> cases rest.isEmpty <;> rfl

theorem exists_parts_readSegment (stop : Position) (within : Section) (tokens : List Token) :
    ∃ segment parts, tokens = segment ++ skipItem tokens ∧
      Parts parts (items (readSegment stop within tokens).1) segment := by
  unfold readSegment
  cases hread : Item.read stop within tokens with
  | error diagnostic =>
      obtain ⟨segment, -, htokens, -⟩ := Segment.exists_segment tokens
      exact ⟨segment, [], htokens, Item.parts_nil segment⟩
  | ok result =>
      obtain ⟨item, rest⟩ := result
      obtain ⟨used, rfl, hused⟩ := Item.spelledBy_of_read hread
      obtain ⟨left, -, hrest, -⟩ := Segment.exists_segment rest
      have hskip : skipItem (used ++ rest) = skipItem rest :=
        List.dropWhile_append_of_pos fun token htoken => by
          rw [Item.not_isTerminator_of_spelledBy hused token htoken, Bool.not_false]
      have hparts := (Item.parts_singleton hused).append (Item.parts_nil left)
      refine ⟨used ++ left, [(item, used)], ?_, ?_⟩
      · rw [hskip, List.append_assoc, ← hrest]
      · dsimp only
        split
        · exact hparts
        · exact hparts

theorem exists_parts_readList (stop : Position) (within : Section) (tokens : List Token) :
    ∃ used parts, tokens = used ++ (readList stop within tokens).2 ∧
      Parts parts (items (readList stop within tokens).1) used := by
  fun_induction readList stop within tokens with
  | case1 tokens entries isComplete heq hskip =>
      obtain ⟨segment, parts, htokens, hparts⟩ := exists_parts_readSegment stop within tokens
      rw [hskip] at htokens
      rw [heq] at hparts
      exact ⟨segment, parts, htokens, by simpa using hparts⟩
  | case2 tokens entries isComplete heq token rest hskip hcomma following remaining hrest ih =>
      obtain ⟨segment, parts, htokens, hparts⟩ := exists_parts_readSegment stop within tokens
      rw [heq] at hparts
      obtain ⟨used, others, hused, hothers⟩ := ih
      rw [hrest] at hused hothers
      rw [hskip, hused] at htokens
      exact ⟨segment ++ token :: used, parts ++ others, by simp [htokens], by
        simpa using hparts.append (hothers.cons_token token)⟩
  | case3 tokens entries isComplete heq token rest hskip hcomma hsemicolon =>
      obtain ⟨segment, parts, htokens, hparts⟩ := exists_parts_readSegment stop within tokens
      rw [hskip] at htokens
      rw [heq] at hparts
      exact ⟨segment ++ [token], parts, by simp [htokens], by
        simpa using hparts.append (Item.parts_nil [token])⟩
  | case4 tokens entries isComplete heq token rest hskip hcomma hsemicolon =>
      obtain ⟨segment, parts, htokens, hparts⟩ := exists_parts_readSegment stop within tokens
      rw [hskip] at htokens
      rw [heq] at hparts
      exact ⟨segment, parts, htokens, by simpa using hparts⟩

theorem exists_parts_readBody (stop : Position) (opened : Section) (tokens : List Token) :
    ∃ used parts, tokens = used ++ (readBody stop opened tokens).2 ∧
      Parts parts (items (readBody stop opened tokens).1) used := by
  unfold readBody
  split
  · exact ⟨[_], [], rfl, Item.parts_nil _⟩
  · exact ⟨[_], [], rfl, Item.parts_nil _⟩
  · exact exists_parts_readList stop opened tokens

theorem exists_parts_readSections (stop : Position) (last : Option Section)
    (tokens : List Token) : ∃ used parts, tokens = used ++ (readSections stop last tokens).unread ∧
      Parts parts (items (readSections stop last tokens).entries) used := by
  fun_induction readSections stop last tokens with
  | case1 last => exact ⟨[], [], rfl, Item.parts_nil _⟩
  | case2 last token rest hkind =>
      refine ⟨token :: rest.take 1, [], ?_, ?_⟩
      · rw [readEnd, List.cons_append, ← List.drop_one, List.take_append_drop]
      · rw [items_readEnd]
        exact Item.parts_nil _
  | case3 last token rest opened hkind body ih =>
      obtain ⟨first, parts, hfirst, hparts⟩ := exists_parts_readBody stop opened rest
      obtain ⟨second, others, hsecond, hothers⟩ := ih
      refine ⟨token :: first ++ second, parts ++ others, ?_, ?_⟩
      · rw [List.cons_append, List.cons_append, List.append_assoc]
        exact congrArg (token :: ·) (hfirst.trans (congrArg (first ++ ·) hsecond))
      · simpa [prepend] using (hparts.cons_token token).append hothers
  | case4 last token rest hfinish hopening ih =>
      obtain ⟨used, parts, hused, hparts⟩ := ih
      have hskip : rest = rest.takeWhile (fun token => !token.isBoundary) ++ skipToBoundary rest :=
        (List.takeWhile_append_dropWhile ..).symm
      have hbetween := Item.parts_nil (rest.takeWhile fun token => !token.isBoundary)
      refine ⟨_, _, ?_, (hbetween.append hparts).cons_token token⟩
      rw [List.cons_append, List.append_assoc]
      exact congrArg (token :: ·) (hskip.trans (congrArg (_ ++ ·) hused))

theorem exists_parts_ofTokens (stream : TokenStream) :
    ∃ parts,
      Parts parts (items (ofTokens stream).entries) ((ofTokens stream).requested stream) := by
  unfold ofTokens
  split
  · exact ⟨[], Item.parts_nil _⟩
  · obtain ⟨used, parts, htokens, hparts⟩ :=
      exists_parts_readSections stream.stop none stream.tokens
    have hrequested : (readSections stream.stop none stream.tokens).requested stream = used := by
      have hlength := congrArg List.length htokens
      rw [List.length_append] at hlength
      rw [requested, hlength, Nat.add_sub_cancel]
      conv_lhs => rw [htokens]
      exact List.take_left
    rw [hrequested]
    exact ⟨parts, hparts⟩

end Outline

/-! ## Names of devices -/

namespace Draft

theorem names_apply (draft : Draft) (entry : Entry) :
    (draft.apply entry).network.devices.map Device.name = draft.network.devices.map Device.name ∨
      ∃ declared, entry.item? = some (.device declared) ∧
        (draft.apply entry).network.devices.map Device.name =
          draft.network.devices.map Device.name ++ [declared.name] := by
  cases entry with
  | opening opened => exact .inl rfl
  | problem within diagnostic => exact .inl (by rw [apply, network_report])
  | item item =>
      cases item with
      | device declared =>
          rcases draft.declare_cases declared with
            ⟨type, kind, network, id, -, -, hadd, heq⟩ | ⟨position, message, heq⟩
          · obtain ⟨-, -, rfl⟩ := Network.addDevice_eq_ok_iff.1 hadd
            exact .inr ⟨declared, rfl, by simp [apply, applyItem, heq, note]⟩
          · exact .inl (by simp [apply, applyItem, heq, refuse])
      | connection source destination =>
          rcases draft.connect_cases source destination with
            ⟨network, hconnected, heq⟩ | ⟨position, message, heq⟩
          · obtain ⟨driver, id, pin, -, -, hconnect⟩ := connected_eq_ok_iff.1 hconnected
            obtain ⟨-, driven, hdriven, -, rfl⟩ := Network.connect_eq_ok_iff.1 hconnect
            exact .inl (by simpa [apply, applyItem, heq] using Network.map_name_set _ hdriven rfl)
          · exact .inl (by simp [apply, applyItem, heq, refuse, implicate])
      | signal reference =>
          rcases draft.monitor_cases reference with
            ⟨recorder, -, heq⟩ | ⟨position, message, heq⟩
          · exact .inl (by simp [apply, applyItem, heq])
          · exact .inl (by simp [apply, applyItem, heq, refuse])

theorem exists_declared_of_mem_names {entries : List Entry} {draft : Draft} {name : String}
    (h : name ∈ (entries.foldl apply draft).network.devices.map Device.name) :
    name ∈ draft.network.devices.map Device.name ∨
      ∃ declared, .device declared ∈ Outline.items entries ∧ declared.name = name := by
  induction entries generalizing draft with
  | nil => exact .inl h
  | cons entry rest ih =>
      rcases ih h with hnext | ⟨declared, hdeclared, hname⟩
      · rcases draft.names_apply entry with hsame | ⟨declared, hentry, hgrown⟩
        · exact .inl (hsame ▸ hnext)
        · rw [hgrown] at hnext
          rcases List.mem_append.1 hnext with hold | hnew
          · exact .inl hold
          · exact .inr ⟨declared, List.mem_filterMap.2 ⟨entry, List.mem_cons_self, hentry⟩,
              (List.mem_singleton.1 hnew).symm⟩
      · exact .inr ⟨declared, (List.sublist_cons_self entry rest).filterMap _ |>.subset hdeclared,
          hname⟩

end Draft

namespace Definition

variable {source : String} {device : Device}

/-- The name of a device is written in the text, as a token that reading asked for. -/
theorem exists_token_of_mem_devices (h : device ∈ (ofSource source).network.devices) :
    ∃ token ∈ (Outline.ofTokens (.ofSource source)).requested (.ofSource source),
      token.kind = .name device.name := by
  have hnetwork : (ofSource source).network =
      (Draft.ofEntries (Outline.ofTokens (.ofSource source)).entries).network :=
    Draft.network_ofTokens (.ofSource source)
  rw [hnetwork] at h
  rcases Draft.exists_declared_of_mem_names (List.mem_map_of_mem h) with hnone | hdeclared
  · cases hnone
  · obtain ⟨declared, hitem, hname⟩ := hdeclared
    obtain ⟨parts, hparts⟩ := Outline.exists_parts_ofTokens (.ofSource source)
    rw [← hname]
    exact hparts.exists_name hitem

theorem isIdentifier_of_mem_devices (h : device ∈ (ofSource source).network.devices) :
    IsIdentifier device.name := by
  obtain ⟨token, htoken, hkind⟩ := exists_token_of_mem_devices h
  have hwellFormed := TokenStream.wellFormed_of_mem (List.take_subset _ _ htoken)
  rw [hkind] at hwellFormed
  exact hwellFormed

theorem isAlphanum_of_mem_name (h : device ∈ (ofSource source).network.devices) {c : Char}
    (hc : c ∈ device.name.toList) : c.isAlphanum := by
  obtain ⟨first, rest, htext, hfirst, hrest⟩ := isIdentifier_of_mem_devices h
  rw [htext] at hc
  rcases List.mem_cons.1 hc with rfl | hbehind
  · simp [Char.isAlphanum, hfirst]
  · exact hrest c hbehind

theorem exists_handle_of_mem_devices (h : device ∈ (ofSource source).network.devices) :
    ∃ handle, (ofSource source).names.query device.name = some handle := by
  obtain ⟨token, htoken, hkind⟩ := exists_token_of_mem_devices h
  have hname : token.name? = some device.name := by rw [Token.name?, hkind]
  exact Names.exists_query_lookupAll {} (List.mem_filterMap.2 ⟨token, htoken, hname⟩)

end Definition

end LogicBench
