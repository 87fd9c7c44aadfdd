import LogicBench.Proofs.Definition.Spelling
import Mathlib.Computability.Language

/-!
# The grammar of definitions

The language of definitions as one over kinds of token, and what it means that some tokens leave a
language at a place: everything before it begins a word of the language, and with the token there
it no longer does. A reader of a part of a word leads from a language to the language of what may
still come.
-/

open scoped Computability

namespace LogicBench

namespace Grammar

def mark (kind : TokenKind) : Language TokenKind :=
  {[kind]}

def name : Language TokenKind :=
  {w | ∃ text, w = [.name text]}

def number : Language TokenKind :=
  {w | ∃ digits, w = [.number digits]}

def deviceKeyword : Language TokenKind :=
  {w | ∃ type, w = [.keyword (.device type)]}

def optional (l : Language TokenKind) : Language TokenKind :=
  1 + l

/-- One item or more, with commas in between. -/
def list (item : Language TokenKind) : Language TokenKind :=
  item * (mark .comma * item)∗

def device : Language TokenKind :=
  name * mark .colon * (deviceKeyword + name) * optional number

def signal : Language TokenKind :=
  name * optional (mark .dot * name)

def connection : Language TokenKind :=
  signal * mark .arrow * signal

def keyword (opened : Section) : Language TokenKind :=
  mark (.keyword (.opening opened))

def devices : Language TokenKind :=
  keyword .devices * list device * mark .semicolon

def connect : Language TokenKind :=
  keyword .connect * optional (list connection) * mark .semicolon

def monitor : Language TokenKind :=
  keyword .monitor * optional (list signal) * mark .semicolon

def definition : Language TokenKind :=
  devices * optional connect * optional monitor * mark (.keyword .finish)

end Grammar

def Token.kinds (tokens : List Token) : List TokenKind :=
  tokens.map Token.kind

@[simp] theorem Token.kinds_nil : kinds [] = [] := rfl

@[simp] theorem Token.kinds_cons (token : Token) (rest : List Token) :
    kinds (token :: rest) = token.kind :: kinds rest := rfl

@[simp] theorem Token.kinds_append (first second : List Token) :
    kinds (first ++ second) = kinds first ++ kinds second :=
  List.map_append

open Token (kinds kinds_append)

def Begins (l : Language TokenKind) (word : List TokenKind) : Prop :=
  ∃ rest, word ++ rest ∈ l

/-- Whether a place is that of the first token with which the tokens no longer begin a word of the
language, the end of the text counting as a token behind the others. -/
def FirstWrong (l : Language TokenKind) (stop : Position) (tokens : List Token)
    (position : Position) : Prop :=
  (∃ before token after, tokens = before ++ token :: after ∧ Begins l (kinds before) ∧
    ¬ Begins l (kinds (before ++ [token])) ∧ position = token.position) ∨
  (Begins l (kinds tokens) ∧ kinds tokens ∉ l ∧ position = stop)

/-- Whether some tokens, in front of the remaining ones, leave of a language just another one. -/
def Leads (l : Language TokenKind) (tokens : List Token) (k : Language TokenKind)
    (rest : List Token) : Prop :=
  ∃ used, tokens = used ++ rest ∧ (∀ x ∈ k, kinds used ++ x ∈ l) ∧
    ∀ x, x.head? = (kinds rest).head? → kinds used ++ x ∈ l → x ∈ k

section Leads

variable {l k m : Language TokenKind} {tokens rest behind : List Token} {stop position : Position}

theorem FirstWrong.not_mem (h : FirstWrong l stop tokens position) : kinds tokens ∉ l := by
  rcases h with ⟨before, token, after, rfl, -, hwrong, -⟩ | ⟨-, hmem, -⟩
  · intro hmem
    exact hwrong ⟨kinds after, by simpa using hmem⟩
  · exact hmem

theorem firstWrong_of_head (hl : ∃ w, w ∈ l) (h : ∀ w ∈ l, w.head? ≠ (kinds tokens).head?) :
    FirstWrong l stop tokens (.ofFront stop tokens) := by
  cases tokens with
  | nil =>
      refine .inr ⟨hl, ?_, rfl⟩
      intro hmem
      exact h _ hmem rfl
  | cons token rest =>
      refine .inl ⟨[], token, rest, rfl, hl, ?_, rfl⟩
      intro ⟨tail, htail⟩
      exact h _ htail rfl

theorem Leads.refl (l : Language TokenKind) (tokens : List Token) : Leads l tokens l tokens :=
  ⟨[], rfl, fun _ h => h, fun _ _ h => h⟩

theorem Leads.trans (h : Leads l tokens k rest) (h' : Leads k rest m behind) :
    Leads l tokens m behind := by
  obtain ⟨used, rfl, hmem, hof⟩ := h
  obtain ⟨more, rfl, hmem', hof'⟩ := h'
  refine ⟨used ++ more, by simp, ?_, ?_⟩
  · intro x hx
    rw [kinds_append, List.append_assoc]
    exact hmem _ (hmem' x hx)
  · intro x hx hword
    rw [kinds_append, List.append_assoc] at hword
    refine hof' x hx (hof _ ?_ hword)
    rw [kinds_append, List.head?_append, List.head?_append, hx]

theorem Leads.mem (h : Leads l tokens k rest) (hrest : kinds rest ∈ k) : kinds tokens ∈ l := by
  obtain ⟨used, rfl, hmem, -⟩ := h
  rw [kinds_append]
  exact hmem _ hrest

/-- What is wrong behind the tokens read is wrong altogether. -/
theorem Leads.firstWrong (h : Leads l tokens k rest) (hrest : FirstWrong k stop rest position) :
    FirstWrong l stop tokens position := by
  obtain ⟨used, rfl, hmem, hof⟩ := h
  rcases hrest with ⟨before, token, after, rfl, ⟨tail, htail⟩, hwrong, hposition⟩ |
    ⟨⟨tail, htail⟩, hword, hposition⟩
  · refine .inl ⟨used ++ before, token, after, by simp, ⟨tail, ?_⟩, ?_, hposition⟩
    · rw [kinds_append, List.append_assoc]
      exact hmem _ htail
    · intro ⟨more, hmore⟩
      rw [List.append_assoc, kinds_append, List.append_assoc] at hmore
      refine hwrong ⟨more, hof _ ?_ hmore⟩
      cases before <;> rfl
  · refine .inr ⟨⟨tail, ?_⟩, ?_, hposition⟩
    · rw [kinds_append, List.append_assoc]
      exact hmem _ htail
    · intro hall
      rw [kinds_append] at hall
      exact hword (hof _ rfl hall)

theorem Leads.add_left (h : ∀ w ∈ m, w.head? ≠ (kinds tokens).head?) :
    Leads (l + m) tokens l tokens := by
  refine ⟨[], rfl, fun x hx => .inl hx, fun x hx hword => ?_⟩
  rcases hword with hl | hm
  · exact hl
  · exact absurd hx (h x hm)

theorem Leads.add_right (h : ∀ w ∈ l, w.head? ≠ (kinds tokens).head?) :
    Leads (l + m) tokens m tokens := by
  rw [add_comm]
  exact .add_left h

end Leads

end LogicBench
