import LogicBench.Index
import LogicBench.Proofs.Definition.Interning

/-!
# Interning with an index

A table of names can keep an index of the handles beside its texts. Asking for a text looks into the
index alone, resolving a handle looks into the texts alone, and a text that is new is entered in
both. Whatever is requested, such a table tells what a table without an index tells that searches
its texts.
-/

namespace LogicBench

/-- A table of names with an index of their handles. -/
structure IndexedNames where
  texts : List String := []
  ids : Index := {}
  deriving DecidableEq, Repr

namespace IndexedNames

def query (names : IndexedNames) (text : String) : Option Handle :=
  names.ids.get? text

def lookup (names : IndexedNames) (text : String) : Handle × IndexedNames :=
  match names.query text with
  | some handle => (handle, names)
  | none =>
    let handle := names.texts.length
    (handle, { texts := names.texts ++ [text], ids := names.ids.insert text handle })

def lookupAll (names : IndexedNames) : List String → List Handle × IndexedNames
  | [] => ([], names)
  | text :: rest =>
    let (handle, names) := names.lookup text
    let (handles, names) := names.lookupAll rest
    (handle :: handles, names)

def text? (names : IndexedNames) (handle : Handle) : Option String :=
  names.texts[handle]?

/-- What a request is told, and the table that it leaves, as for a table without an index. -/
def serve (names : IndexedNames) : Names.Request → List (String × Handle) × IndexedNames
  | .lookup text => ([(text, (names.lookup text).1)], (names.lookup text).2)
  | .query text => ((names.query text).toList.map fun handle => (text, handle), names)
  | .resolve handle => ((names.text? handle).toList.map fun text => (text, handle), names)
  | .scan source asked =>
    let found := ((TokenStream.ofSource source).tokens.take asked).filterMap Token.name?
    (found.zip (names.lookupAll found).1, (names.lookupAll found).2)

def serveAll (names : IndexedNames) : List Names.Request → List (String × Handle) × IndexedNames
  | [] => ([], names)
  | request :: rest =>
    let (told, names) := names.serve request
    let (later, names) := names.serveAll rest
    (told ++ later, names)

/-- Whether a table with an index stands for one without. -/
structure Represents (indexed : IndexedNames) (names : Names) : Prop where
  texts : indexed.texts = names.texts
  ids : indexed.ids.Agrees names.texts

namespace Represents

variable {indexed : IndexedNames} {names : Names}

theorem empty : Represents {} {} :=
  ⟨rfl, Index.agrees_empty⟩

theorem query (h : indexed.Represents names) (text : String) :
    indexed.query text = names.query text :=
  h.ids text

theorem text? (h : indexed.Represents names) (handle : Handle) :
    indexed.text? handle = names.text? handle := by
  rw [IndexedNames.text?, Names.text?, h.texts]

theorem lookup (h : indexed.Represents names) (text : String) :
    (indexed.lookup text).1 = (names.lookup text).1 ∧
      (indexed.lookup text).2.Represents (names.lookup text).2 := by
  rw [IndexedNames.lookup, Names.lookup, h.query text]
  cases hquery : names.query text with
  | some handle => exact ⟨rfl, h⟩
  | none =>
      have hnew : text ∉ names.texts := Names.query_eq_none_iff.1 hquery
      refine ⟨congrArg List.length h.texts, congrArg (· ++ [text]) h.texts, ?_⟩
      show (indexed.ids.insert text indexed.texts.length).Agrees (names.texts ++ [text])
      rw [h.texts]
      exact h.ids.insert hnew

theorem lookupAll (h : indexed.Represents names) (texts : List String) :
    (indexed.lookupAll texts).1 = (names.lookupAll texts).1 ∧
      (indexed.lookupAll texts).2.Represents (names.lookupAll texts).2 := by
  induction texts generalizing indexed names with
  | nil => exact ⟨rfl, h⟩
  | cons text rest ih =>
      obtain ⟨hhandle, hnext⟩ := h.lookup text
      obtain ⟨hhandles, hlast⟩ := ih hnext
      refine ⟨?_, hlast⟩
      rw [IndexedNames.lookupAll, Names.lookupAll]
      exact congrArg₂ List.cons hhandle hhandles

theorem serve (h : indexed.Represents names) (request : Names.Request) :
    (indexed.serve request).1 = (names.serve request).1 ∧
      (indexed.serve request).2.Represents (names.serve request).2 := by
  cases request with
  | lookup text =>
      obtain ⟨hhandle, hnext⟩ := h.lookup text
      exact ⟨congrArg (fun handle => [(text, handle)]) hhandle, hnext⟩
  | query text =>
      rw [IndexedNames.serve, Names.serve, h.query text]
      exact ⟨rfl, h⟩
  | resolve handle =>
      rw [IndexedNames.serve, Names.serve, h.text? handle]
      exact ⟨rfl, h⟩
  | scan source asked =>
      obtain ⟨hhandles, hnext⟩ :=
        h.lookupAll (((TokenStream.ofSource source).tokens.take asked).filterMap Token.name?)
      exact ⟨congrArg (List.zip _) hhandles, hnext⟩

theorem serveAll (h : indexed.Represents names) (requests : List Names.Request) :
    (indexed.serveAll requests).1 = (names.serveAll requests).1 ∧
      (indexed.serveAll requests).2.Represents (names.serveAll requests).2 := by
  induction requests generalizing indexed names with
  | nil => exact ⟨rfl, h⟩
  | cons request rest ih =>
      obtain ⟨htold, hnext⟩ := h.serve request
      obtain ⟨hlater, hlast⟩ := ih hnext
      exact ⟨congrArg₂ List.append htold hlater, hlast⟩

end Represents

/-- A table with an index tells the same as one without. After any requests its two copies are
inverse to each other: asking for a text gives a handle exactly if the handle resolves to it. -/
theorem serveAll_agrees (requests : List Names.Request) :
    let indexed := ({} : IndexedNames).serveAll requests
    let names := ({} : Names).serveAll requests
    indexed.1 = names.1 ∧ (∀ text, indexed.2.query text = names.2.query text) ∧
      (∀ handle, indexed.2.text? handle = names.2.text? handle) ∧
      ∀ text handle, indexed.2.query text = some handle ↔ indexed.2.text? handle = some text := by
  intro indexed names
  obtain ⟨htold, h⟩ := Represents.empty.serveAll requests
  refine ⟨htold, h.query, h.text?, fun text handle => ?_⟩
  have hnodup : names.2.texts.Nodup := by
    unfold names
    rw [Names.serveAll_eq_lookupAll]
    exact Names.nodup_texts_lookupAll List.nodup_nil _
  rw [h.query, h.text?]
  exact Names.query_eq_some_iff hnodup

end IndexedNames

end LogicBench
