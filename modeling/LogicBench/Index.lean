/-!
# Indexes

A map from texts to the places where they stand in a list. It is kept beside the list so that no
text has to be searched for, and has to be extended together with it.
-/

namespace LogicBench

/-- The texts with their places, the pair that was put in last in front. -/
structure Index where
  pairs : List (String × Nat) := []
  deriving DecidableEq, Repr

namespace Index

def get? (index : Index) (text : String) : Option Nat :=
  index.pairs.lookup text

def insert (index : Index) (text : String) (place : Nat) : Index :=
  ⟨(text, place) :: index.pairs⟩

/-- Whether the index finds each text where a search would find it. -/
def Agrees (index : Index) (texts : List String) : Prop :=
  ∀ text, index.get? text = texts.findIdx? (· = text)

variable {index : Index} {texts : List String} {text : String}

theorem get?_insert_self (index : Index) (text : String) (place : Nat) :
    (index.insert text place).get? text = some place := by
  rw [get?, insert, List.lookup_cons_self]

theorem get?_insert_of_ne {other : String} (h : other ≠ text) (place : Nat) :
    (index.insert text place).get? other = index.get? other := by
  rw [get?, insert, List.lookup_cons, beq_false_of_ne h]
  rfl

theorem agrees_empty : Agrees {} [] :=
  fun _ => rfl

theorem Agrees.insert (h : index.Agrees texts) (hnew : text ∉ texts) :
    (index.insert text texts.length).Agrees (texts ++ [text]) := by
  intro other
  rw [List.findIdx?_append, ← h other]
  by_cases hother : other = text
  · have hnone : index.get? text = none := by
      rw [h text, List.findIdx?_eq_none_iff]
      exact fun known hknown => decide_eq_false fun hsame => hnew (hsame ▸ hknown)
    rw [hother, get?_insert_self, hnone]
    simp
  · rw [get?_insert_of_ne hother]
    simp [Ne.symm hother]

end Index

end LogicBench
