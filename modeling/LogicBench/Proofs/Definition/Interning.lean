import LogicBench.Proofs.Definition.Handles
import LogicBench.Proofs.Definition.Spacing

/-!
# Interning

A table of names only grows at its end, by texts that are looked up and are not in it yet. So a text
and its handle belong together for ever, whatever is looked up, asked for or scanned afterwards, and
two names in a text have one handle exactly if they are the same name.
-/

namespace LogicBench

namespace Names

variable {names : Names} {text : String} {handle : Handle}

theorem query_eq_none_iff : names.query text = none ↔ text ∉ names.texts := by
  rw [query, List.findIdx?_eq_none_iff]
  constructor
  · intro h hmem
    simpa using h text hmem
  · intro h known hknown
    simpa using fun heq : known = text => h (heq ▸ hknown)

theorem query_eq_some_iff (h : names.texts.Nodup) :
    names.query text = some handle ↔ names.text? handle = some text := by
  refine ⟨text?_of_query, fun htext => ?_⟩
  have hmem : text ∈ names.texts := List.mem_of_getElem? htext
  cases hquery : names.query text with
  | none => exact absurd hmem (query_eq_none_iff.1 hquery)
  | some found =>
      have hfound := text?_of_query hquery
      have hlt : found < names.texts.length := (List.getElem?_eq_some_iff.1 hfound).1
      exact congrArg some ((List.getElem?_inj hlt h).1 (hfound.trans htext.symm))

theorem handle_eq_iff {other : String} {another : Handle} (h : names.query text = some handle)
    (hother : names.query other = some another) : handle = another ↔ text = other := by
  constructor
  · rintro rfl
    exact Option.some.inj ((text?_of_query h).symm.trans (text?_of_query hother))
  · rintro rfl
    exact Option.some.inj (h.symm.trans hother)

theorem texts_lookup (names : Names) (text : String) :
    (names.lookup text).2.texts =
      if text ∈ names.texts then names.texts else names.texts ++ [text] := by
  unfold lookup
  cases hquery : names.query text with
  | some handle => rw [if_pos (List.mem_of_getElem? (text?_of_query hquery))]
  | none => rw [if_neg (query_eq_none_iff.1 hquery)]

/-- Looking texts up adds the new ones, in the order in which they first occur. -/
theorem texts_lookupAll (names : Names) (texts : List String) :
    (names.lookupAll texts).2.texts =
      names.texts ++ (texts.filter fun text => text ∉ names.texts).eraseDups := by
  induction texts generalizing names with
  | nil => simp [lookupAll]
  | cons text rest ih =>
      show ((names.lookup text).2.lookupAll rest).2.texts = _
      rw [ih, texts_lookup]
      by_cases hmem : text ∈ names.texts
      · rw [if_pos hmem, List.filter_cons_of_neg (by simpa using hmem)]
      · rw [if_neg hmem, List.filter_cons_of_pos (by simpa using hmem), List.eraseDups_cons,
          List.filter_filter, List.append_assoc]
        refine congrArg (fun new => names.texts ++ text :: List.eraseDups new) ?_
        refine List.filter_congr fun other _ => ?_
        simp [Bool.and_comm, beq_eq_decide]

theorem forall₂_query_lookupAll (names : Names) (texts : List String) :
    List.Forall₂ (fun text handle => (names.lookupAll texts).2.query text = some handle) texts
      (names.lookupAll texts).1 := by
  induction texts generalizing names with
  | nil => exact .nil
  | cons text rest ih =>
      exact .cons (query_lookupAll_of_query (names.query_lookup_self text) rest)
        (ih (names.lookup text).2)

/-! ## Histories of a table -/

inductive Request where
  | lookup (text : String)
  | query (text : String)
  | resolve (handle : Handle)
  /-- A text is scanned until so many of its tokens have been asked for. -/
  | scan (source : String) (asked : Nat)

/-- The texts that a request makes a table look up. -/
def Request.entered : Request → List String
  | lookup text => [text]
  | query _ | resolve _ => []
  | scan source asked => ((TokenStream.ofSource source).tokens.take asked).filterMap Token.name?

/-- The texts that a request tells of, each with its handle, and the table that it leaves. -/
def serve (names : Names) : Request → List (String × Handle) × Names
  | .lookup text => ([(text, (names.lookup text).1)], (names.lookup text).2)
  | .query text => ((names.query text).toList.map fun handle => (text, handle), names)
  | .resolve handle => ((names.text? handle).toList.map fun text => (text, handle), names)
  | .scan source asked =>
      let tokens := (TokenStream.ofSource source).tokens.take asked
      let found := tokens.filterMap Token.name?
      (found.zip (names.lookupAll found).1, names.lookupTokens tokens)

def serveAll (names : Names) : List Request → List (String × Handle) × Names
  | [] => ([], names)
  | request :: rest =>
    let (told, names) := names.serve request
    let (later, names) := names.serveAll rest
    (told ++ later, names)

variable {request : Request} {requests : List Request} {pair : String × Handle}

theorem serve_eq_lookupAll (names : Names) (request : Request) :
    (names.serve request).2 = (names.lookupAll request.entered).2 := by
  cases request <;> rfl

theorem serveAll_eq_lookupAll (names : Names) (requests : List Request) :
    (names.serveAll requests).2 = (names.lookupAll (requests.flatMap Request.entered)).2 := by
  induction requests generalizing names with
  | nil => rfl
  | cons request rest ih =>
      rw [List.flatMap_cons, lookupAll_append, ← serve_eq_lookupAll]
      exact ih (names.serve request).2

theorem nodup_texts_serve (h : names.texts.Nodup) (request : Request) :
    (names.serve request).2.texts.Nodup :=
  serve_eq_lookupAll names request ▸ nodup_texts_lookupAll h request.entered

theorem query_of_mem_serve (h : names.texts.Nodup) (hpair : pair ∈ (names.serve request).1) :
    (names.serve request).2.query pair.1 = some pair.2 := by
  cases request with
  | lookup text =>
      obtain rfl := List.mem_singleton.1 hpair
      exact names.query_lookup_self text
  | query text =>
      obtain ⟨handle, hhandle, rfl⟩ := List.mem_map.1 hpair
      exact Option.mem_toList.1 hhandle
  | resolve handle =>
      obtain ⟨text, htext, rfl⟩ := List.mem_map.1 hpair
      exact (query_eq_some_iff h).2 (Option.mem_toList.1 htext)
  | scan source asked =>
      exact List.forall₂_iff_zip.1 (names.forall₂_query_lookupAll _) |>.2 hpair

/-- What was told of a text at any time is what the last table says. -/
theorem query_of_mem_serveAll (h : names.texts.Nodup)
    (hpair : pair ∈ (names.serveAll requests).1) :
    (names.serveAll requests).2.query pair.1 = some pair.2 := by
  induction requests generalizing names with
  | nil => cases hpair
  | cons request rest ih =>
      rcases List.mem_append.1 hpair with hfirst | hlater
      · show ((names.serve request).2.serveAll rest).2.query pair.1 = some pair.2
        rw [serveAll_eq_lookupAll]
        exact query_lookupAll_of_query (query_of_mem_serve h hfirst) _
      · exact ih (nodup_texts_serve h request) hlater

end Names

/-! ## Names in a text -/

theorem TokenKind.eq_of_spelling_eq {first second : TokenKind} (hfirst : first.Proper)
    (hsecond : second.Proper) (h : first.spelling = second.spelling) : first = second := by
  have hlexeme := Lexeme.ofText_of_token hfirst first.endsBefore_nil
  rw [h, Lexeme.ofText_of_token hsecond second.endsBefore_nil] at hlexeme
  exact (Lexeme.token.inj (List.cons.inj hlexeme).1).symm

namespace Token

theorem name?_eq_some {token : Token} {text : String} :
    token.name? = some text ↔ token.kind = .name text := by
  unfold name?
  split
  · simp_all
  · next hkind => simpa using hkind text

/-- A token of a text is a name exactly if it is spelled as an identifier that is no keyword, letter
by letter. -/
theorem name?_eq_some_iff {source text : String} {token : Token}
    (h : token ∈ (TokenStream.ofSource source).tokens) :
    token.name? = some text ↔
      token.kind.spelling = text.toList ∧ IsIdentifier text ∧ Keyword.ofWord? text = none := by
  have hproper := TokenStream.proper_of_mem h
  rw [name?_eq_some]
  constructor
  · intro hkind
    rw [hkind] at hproper ⊢
    exact ⟨rfl, hproper⟩
  · rintro ⟨hspelling, hname⟩
    exact TokenKind.eq_of_spelling_eq hproper hname hspelling

theorem forall₂_zip_names {α : Type} (tokens : List Token) {labels : List α}
    (h : (tokens.filterMap name?).length = labels.length) :
    List.Forall₂ (fun token pair => token.kind = .name pair.1)
      (tokens.filter fun token => token.name?.isSome) ((tokens.filterMap name?).zip labels) := by
  induction tokens generalizing labels with
  | nil => exact .nil
  | cons token rest ih =>
      cases hname : token.name? with
      | none =>
          rw [List.filterMap_cons_none hname] at h ⊢
          rw [List.filter_cons_of_neg (by simp [hname])]
          exact ih h
      | some text =>
          rw [List.filterMap_cons_some hname] at h ⊢
          rw [List.filter_cons_of_pos (by simp [hname])]
          cases labels with
          | nil => cases h
          | cons label labels => exact .cons (name?_eq_some.1 hname) (ih (Nat.succ.inj h))

end Token

namespace Names

variable {names : Names}

theorem forall₂_scan (h : names.texts.Nodup) (source : String) (asked : Nat) :
    let tokens := (TokenStream.ofSource source).tokens.take asked
    let scan := names.serve (.scan source asked)
    List.Forall₂
      (fun token pair => token.kind = .name pair.1 ∧ scan.2.text? pair.2 = some pair.1 ∧
        ∃ before after, source.toList = before ++ pair.1.toList ++ after ∧
          token.position = .behind before)
      (tokens.filter fun token => token.name?.isSome) scan.1 := by
  intro tokens scan
  have hlength := (names.forall₂_query_lookupAll (tokens.filterMap Token.name?)).length_eq
  obtain ⟨hsame, hkinds⟩ := List.forall₂_iff_zip.1 (Token.forall₂_zip_names tokens hlength)
  refine List.forall₂_iff_zip.2 ⟨hsame, fun {token pair} hmem => ?_⟩
  have hkind : token.kind = .name pair.1 := hkinds hmem
  obtain ⟨htoken, hpair⟩ := List.of_mem_zip hmem
  have hsource := List.take_subset _ _ (List.mem_of_mem_filter htoken)
  obtain ⟨before, after, htext, hposition, -⟩ := TokenStream.exists_around hsource
  rw [hkind] at htext
  exact ⟨hkind, text?_of_query (query_of_mem_serve h hpair), before, after, htext, hposition⟩

/-- In a table that was made by lookups and scans, a text and its handle are one pair for ever: the
handle is what asking for the text gives, and the text is what the handle resolves to. No request
changes what was told before; only lookups and scans add texts, and only new ones, in the order in
which they first occur. The texts that a scan looks up are those of its name tokens, the identifiers
that are no keywords. -/
theorem interning_is_stable (requests : List Request) :
    let table := (({} : Names).serveAll requests).2
    let told := (({} : Names).serveAll requests).1
    (∀ text handle, table.query text = some handle ↔ table.text? handle = some text) ∧
    (∀ first ∈ told, ∀ second ∈ told, first.2 = second.2 ↔ first.1 = second.1) ∧
    (∀ later, let grown := (table.serveAll later).2
      grown.texts = table.texts ++
        ((later.flatMap Request.entered).filter fun text => text ∉ table.texts).eraseDups ∧
      (∀ pair ∈ told, grown.query pair.1 = some pair.2) ∧
      ∀ text handle, table.query text = some handle → grown.query text = some handle) ∧
    ∀ source asked,
      let tokens := (TokenStream.ofSource source).tokens.take asked
      let scan := table.serve (.scan source asked)
      scan.2.texts = table.texts ++
        ((tokens.filterMap Token.name?).filter fun text => text ∉ table.texts).eraseDups ∧
      List.Forall₂
        (fun token pair => token.kind = .name pair.1 ∧ scan.2.text? pair.2 = some pair.1 ∧
          ∃ before after, source.toList = before ++ pair.1.toList ++ after ∧
            token.position = .behind before)
        (tokens.filter fun token => token.name?.isSome) scan.1 ∧
      (∀ first ∈ scan.1, ∀ second ∈ scan.1, first.2 = second.2 ↔ first.1 = second.1) ∧
      ∀ token ∈ tokens, ∀ text, token.name? = some text ↔
        token.kind.spelling = text.toList ∧ IsIdentifier text ∧ Keyword.ofWord? text = none := by
  intro table told
  have hnew : ({} : Names).texts.Nodup := List.nodup_nil
  have hnodup : table.texts.Nodup := by
    unfold table
    rw [serveAll_eq_lookupAll]
    exact nodup_texts_lookupAll hnew _
  have htold : ∀ pair ∈ told, table.query pair.1 = some pair.2 := fun _ hpair =>
    query_of_mem_serveAll hnew hpair
  refine ⟨fun text handle => query_eq_some_iff hnodup, fun first hfirst second hsecond =>
    handle_eq_iff (htold first hfirst) (htold second hsecond), fun later => ?_,
    fun source asked => ⟨texts_lookupAll _ _, forall₂_scan hnodup source asked, ?_, ?_⟩⟩
  · have hgrown := table.serveAll_eq_lookupAll later
    have hkept {text : String} {handle : Handle} (h : table.query text = some handle) :
        (table.serveAll later).2.query text = some handle := by
      rw [hgrown]
      exact query_lookupAll_of_query h _
    refine ⟨?_, fun pair hpair => hkept (htold pair hpair), fun text handle => hkept⟩
    rw [hgrown]
    exact texts_lookupAll _ _
  · intro first hfirst second hsecond
    exact handle_eq_iff (query_of_mem_serve hnodup hfirst) (query_of_mem_serve hnodup hsecond)
  · intro token htoken text
    exact Token.name?_eq_some_iff (List.take_subset _ _ htoken)

/-- A word that only resembles a keyword is a name. -/
example : (({} : Names).serveAll [.query "AND", .scan "AND And ANDS AN And" 5]).2.texts =
    ["And", "ANDS", "AN"] := by
  decide +kernel

end Names

end LogicBench
