import LogicBench.Proofs.Definition.Grammar

/-!
# Readers recognize the grammar

Each reader either leads from the language of what it reads, followed by anything that can come
next, to that anything, or reports a syntactic problem at the first wrong place. One token of
lookahead decides everywhere, since what may follow an item begins with a mark that no item contains
at that place.
-/

namespace LogicBench

open Token (kinds kinds_append kinds_cons)
open Grammar
open scoped Computability

/-- Whether a result of reading tokens fits a language, of which `k` is what may come behind. -/
def Recognizes {α : Type} (remaining : α → List Token) (result : Except Diagnostic α)
    (l k : Language TokenKind) (stop : Position) (tokens : List Token) : Prop :=
  match result with
  | .ok value => Leads l tokens k (remaining value)
  | .error diagnostic =>
    diagnostic.category = .syntactic ∧ FirstWrong l stop tokens diagnostic.position

def Single (l : Language TokenKind) : Prop :=
  ∀ w ∈ l, ∃ kind, w = [kind]

structure Closing (k : Language TokenKind) : Prop where
  nonempty : ∃ w, w ∈ k
  head : ∀ w ∈ k, w.head? = some .comma ∨ w.head? = some .semicolon ∨ w.head? = some .arrow

section

variable {α β : Type} {l k m : Language TokenKind} {tokens rest : List Token} {stop : Position}

theorem Recognizes.of_leads {remaining : α → List Token} {result : Except Diagnostic α}
    (h : Leads l tokens m rest) (hresult : Recognizes remaining result m k stop rest) :
    Recognizes remaining result l k stop tokens := by
  cases result with
  | ok value => exact h.trans hresult
  | error diagnostic => exact ⟨hresult.1, h.firstWrong hresult.2⟩

theorem Recognizes.bind {remaining : α → List Token} {remaining' : β → List Token}
    {first : Except Diagnostic α} {next : α → Except Diagnostic β}
    (hfirst : Recognizes remaining first l m stop tokens)
    (hnext : ∀ value, first = .ok value →
      Recognizes remaining' (next value) m k stop (remaining value)) :
    Recognizes remaining' (first >>= next) l k stop tokens := by
  cases first with
  | ok value => exact .of_leads hfirst (hnext value rfl)
  | error diagnostic => exact hfirst

theorem single_mark (kind : TokenKind) : Single (mark kind) := by
  intro w hw
  exact ⟨kind, hw⟩

theorem single_name : Single name := by
  intro w ⟨text, hw⟩
  exact ⟨.name text, hw⟩

theorem single_number : Single number := by
  intro w ⟨digits, hw⟩
  exact ⟨.number digits, hw⟩

theorem single_kind : Single (deviceKeyword + name) := by
  intro w hw
  rcases hw with ⟨type, hw⟩ | ⟨text, hw⟩
  · exact ⟨.keyword (.device type), hw⟩
  · exact ⟨.name text, hw⟩

theorem Single.head? (hl : Single l) {w : List TokenKind} (hw : w ∈ l * k) :
    ∃ kind, [kind] ∈ l ∧ w.head? = some kind := by
  obtain ⟨a, ha, b, hb, rfl⟩ := Language.mem_mul.1 hw
  obtain ⟨kind, rfl⟩ := hl a ha
  exact ⟨kind, ha, rfl⟩

theorem head?_of_mem_mark_mul {kind : TokenKind} {w : List TokenKind} (hw : w ∈ mark kind * k) :
    w.head? = some kind := by
  obtain ⟨same, hsame, hhead⟩ := (single_mark kind).head? hw
  obtain rfl : same = kind := List.singleton_inj.1 hsame
  exact hhead

theorem Leads.of_single (hl : Single l) {token : Token} (h : [token.kind] ∈ l) :
    Leads (l * k) (token :: rest) k rest := by
  refine ⟨[token], rfl, ?_, ?_⟩
  · intro x hx
    exact Language.append_mem_mul h hx
  · intro x _ hword
    obtain ⟨a, ha, b, hb, hab⟩ := Language.mem_mul.1 hword
    obtain ⟨kind, rfl⟩ := hl a ha
    obtain rfl : b = x := (List.cons.inj hab).2
    exact hb

theorem firstWrong_of_single (hl : Single l) (hword : ∃ w, w ∈ l * k)
    (h : ∀ token rest, tokens = token :: rest → [token.kind] ∉ l) :
    FirstWrong (l * k) stop tokens (.ofFront stop tokens) := by
  apply firstWrong_of_head hword
  intro w hw
  obtain ⟨kind, hkind, hhead⟩ := hl.head? hw
  rw [hhead]
  cases tokens with
  | nil => exact Option.some_ne_none kind
  | cons token rest =>
      intro heq
      obtain rfl : kind = token.kind := Option.some.inj heq
      exact h token rest rfl hkind

theorem exists_mem_mul (hl : ∃ w, w ∈ l) (hk : ∃ w, w ∈ k) : ∃ w, w ∈ l * k := by
  obtain ⟨a, ha⟩ := hl
  obtain ⟨b, hb⟩ := hk
  exact ⟨a ++ b, Language.append_mem_mul ha hb⟩

theorem exists_mem_mark (kind : TokenKind) : ∃ w, w ∈ mark kind :=
  ⟨[kind], rfl⟩

theorem exists_mem_name : ∃ w, w ∈ name :=
  ⟨[.name ""], "", rfl⟩

theorem exists_mem_optional (l : Language TokenKind) : ∃ w, w ∈ optional l :=
  ⟨[], .inl rfl⟩

theorem optional_mul (l k : Language TokenKind) : optional l * k = k + l * k := by
  rw [show optional l = 1 + l from rfl, add_mul, one_mul]

namespace Item

theorem recognizes_readName (expected : String) (hk : ∃ w, w ∈ k) :
    Recognizes Prod.snd (readName stop expected tokens) (name * k) k stop tokens := by
  unfold readName
  split
  · next text position rest => exact .of_single single_name ⟨text, rfl⟩
  · next hname =>
    refine ⟨rfl, firstWrong_of_single single_name (exists_mem_mul exists_mem_name hk) ?_⟩
    intro token rest htokens ⟨text, htext⟩
    obtain ⟨kind, position⟩ := token
    obtain rfl : kind = .name text := List.singleton_inj.1 htext
    exact hname text position rest htokens

theorem recognizes_readMark (kind : TokenKind) (hk : ∃ w, w ∈ k) :
    Recognizes id (readMark stop kind tokens) (mark kind * k) k stop tokens := by
  have hword := exists_mem_mul (exists_mem_mark kind) hk
  unfold readMark
  split
  · next token rest =>
    split
    · next hkind => exact .of_single (single_mark kind) (by rw [hkind]; rfl)
    · next hkind =>
      refine ⟨rfl, firstWrong_of_single (single_mark kind) hword ?_⟩
      intro same _ hsame hmem
      cases hsame
      exact hkind (List.singleton_inj.1 hmem)
  · refine ⟨rfl, firstWrong_of_single (single_mark kind) hword ?_⟩
    intro token rest h
    cases h

theorem recognizes_readReference (hk : Closing k) :
    Recognizes Prod.snd (readReference stop tokens) (Grammar.signal * k) k stop tokens := by
  have hdot : ∀ w ∈ k, w.head? ≠ some .dot := by
    intro w hw
    rcases hk.head w hw with h | h | h <;> simp [h]
  have hname := exists_mem_mul exists_mem_name hk.nonempty
  unfold readReference
  rw [Grammar.signal, mul_assoc]
  refine .bind (recognizes_readName _ (exists_mem_mul (exists_mem_optional _) hk.nonempty)) ?_
  intro ⟨owner, behind⟩ _
  rw [optional_mul]
  simp only
  split
  · next position behindDot _ =>
    have hright : Leads (k + mark .dot * name * k) (⟨.dot, position⟩ :: behindDot)
        (mark .dot * name * k) (⟨.dot, position⟩ :: behindDot) := .add_right hdot
    rw [mul_assoc] at hright ⊢
    refine .of_leads (hright.trans (.of_single (single_mark .dot) rfl)) ?_
    exact .bind (recognizes_readName _ hk.nonempty) fun value _ => .refl k value.2
  · next hrest =>
    refine .add_left ?_
    intro w hw
    rw [mul_assoc] at hw
    rw [head?_of_mem_mark_mul hw]
    intro heq
    cases behind with
    | nil => cases heq
    | cons token rest =>
        obtain ⟨kind, position⟩ := token
        obtain rfl : kind = .dot := (Option.some.inj heq).symm
        exact hrest position rest rfl

theorem recognizes_readKind (hk : ∃ w, w ∈ k) :
    Recognizes Prod.snd (readKind stop tokens) ((deviceKeyword + name) * k) k stop tokens := by
  have hword : ∃ w, w ∈ deviceKeyword + name := by
    obtain ⟨w, hw⟩ := exists_mem_name
    exact ⟨w, .inr hw⟩
  unfold readKind
  split
  · next type position rest => exact .of_single single_kind (.inl ⟨type, rfl⟩)
  · next text position rest => exact .of_single single_kind (.inr ⟨text, rfl⟩)
  · next hkeyword hname =>
    refine ⟨rfl, firstWrong_of_single single_kind (exists_mem_mul hword hk) ?_⟩
    intro token rest htokens hmem
    obtain ⟨kind, position⟩ := token
    rcases hmem with ⟨type, htype⟩ | ⟨text, htext⟩
    · obtain rfl : kind = .keyword (.device type) := List.singleton_inj.1 htype
      exact hkeyword type position rest htokens
    · obtain rfl : kind = .name text := List.singleton_inj.1 htext
      exact hname text position rest htokens

/-- What cannot be a token stands neither for a number nor for the end of an item. -/
theorem recognizes_readQualifier (kind : KindWord) (hk : Closing k) :
    Recognizes Prod.snd (readQualifier stop kind tokens) (Grammar.optional number * k) k stop
      tokens := by
  have hnumber (digits : String) : ∀ w ∈ k, w.head? ≠ some (.number digits) := by
    intro w hw
    rcases hk.head w hw with h | h | h <;> simp [h]
  have hword : ∃ w, w ∈ k + number * k := by
    obtain ⟨w, hw⟩ := hk.nonempty
    exact ⟨w, .inl hw⟩
  have hhead {first : TokenKind} (hstray : (∃ c, first = .stray c) ∨ ∃ body,
      first = .openComment body) : ∀ w ∈ k + number * k, w.head? ≠ some first := by
    intro w hw heq
    rcases hw with hw | hw
    · rcases hk.head w hw with h | h | h <;> rw [h] at heq <;> rcases hstray with
        ⟨c, rfl⟩ | ⟨body, rfl⟩ <;> cases heq
    · obtain ⟨found, ⟨digits, hdigits⟩, hfound⟩ := single_number.head? hw
      rw [hfound, List.singleton_inj.1 hdigits] at heq
      rcases hstray with ⟨c, rfl⟩ | ⟨body, rfl⟩ <;> cases heq
  rw [optional_mul]
  unfold readQualifier
  split
  · next digits position rest =>
    have hright : Leads (k + number * k) (⟨.number digits, position⟩ :: rest) (number * k)
        (⟨.number digits, position⟩ :: rest) := .add_right (hnumber digits)
    exact hright.trans (.of_single single_number ⟨digits, rfl⟩)
  · next c position rest type => exact ⟨rfl, firstWrong_of_head hword (hhead (.inl ⟨c, rfl⟩))⟩
  · next body position rest type =>
    exact ⟨rfl, firstWrong_of_head hword (hhead (.inr ⟨body, rfl⟩))⟩
  · next hnone _ _ =>
    refine .add_left ?_
    intro w hw heq
    obtain ⟨found, ⟨digits, hdigits⟩, hfound⟩ := single_number.head? hw
    rw [hfound, List.singleton_inj.1 hdigits] at heq
    cases tokens with
    | nil => cases heq
    | cons token rest =>
        obtain ⟨first, position⟩ := token
        obtain rfl : first = .number digits := (Option.some.inj heq).symm
        exact hnone digits position rest rfl

def language : Section → Language TokenKind
  | .devices => Grammar.device
  | .connect => Grammar.connection
  | .monitor => Grammar.signal

theorem closing_mark_mul {kind : TokenKind} (hk : ∃ w, w ∈ k)
    (hkind : kind = .comma ∨ kind = .semicolon ∨ kind = .arrow) : Closing (mark kind * k) := by
  refine ⟨exists_mem_mul (exists_mem_mark kind) hk, ?_⟩
  intro w hw
  rw [head?_of_mem_mark_mul hw]
  rcases hkind with rfl | rfl | rfl <;> simp

theorem exists_language_eq (within : Section) : ∃ m, language within = name * m := by
  cases within with
  | devices => exact ⟨_, by rw [language, Grammar.device, mul_assoc, mul_assoc]⟩
  | connect => exact ⟨_, by rw [language, Grammar.connection, Grammar.signal, mul_assoc, mul_assoc]⟩
  | monitor => exact ⟨_, rfl⟩

theorem recognizes_readDevice (hk : Closing k) :
    Recognizes Prod.snd (readDevice stop tokens) (Grammar.device * k) k stop tokens := by
  have hqualifier := exists_mem_mul (exists_mem_optional number) hk.nonempty
  have hkind : ∃ w, w ∈ (deviceKeyword + name) * (Grammar.optional number * k) := by
    obtain ⟨w, hw⟩ := exists_mem_name
    exact exists_mem_mul ⟨w, .inr hw⟩ hqualifier
  have hcolon := exists_mem_mul (exists_mem_mark .colon) hkind
  unfold readDevice
  rw [Grammar.device, mul_assoc, mul_assoc, mul_assoc]
  refine .bind (recognizes_readName _ hcolon) ?_
  intro ⟨name, behindName⟩ _
  refine .bind (recognizes_readMark .colon hkind) ?_
  intro behindColon _
  refine .bind (recognizes_readKind hqualifier) ?_
  intro ⟨kind, behindKind⟩ _
  refine .bind (recognizes_readQualifier kind hk) ?_
  intro ⟨qualifier, rest⟩ _
  exact .refl k rest

theorem recognizes_readConnection (hk : Closing k) :
    Recognizes Prod.snd (readConnection stop tokens) (Grammar.connection * k) k stop tokens := by
  have hsignal : ∃ w, w ∈ Grammar.signal * k := by
    have hname := exists_mem_mul exists_mem_name (exists_mem_optional (mark .dot * name))
    exact exists_mem_mul hname hk.nonempty
  unfold readConnection
  rw [Grammar.connection, mul_assoc, mul_assoc]
  refine .bind (recognizes_readReference (closing_mark_mul hsignal (.inr (.inr rfl)))) ?_
  intro ⟨source, behindSource⟩ _
  refine .bind (recognizes_readMark .arrow hsignal) ?_
  intro behindArrow _
  refine .bind (recognizes_readReference hk) ?_
  intro ⟨destination, rest⟩ _
  exact .refl k rest

/-- An item is read, or its first wrong place is found. -/
theorem recognizes_read (within : Section) (hk : Closing k) :
    Recognizes Prod.snd (Item.read stop within tokens) (language within * k) k stop tokens := by
  cases within with
  | devices => exact recognizes_readDevice hk
  | connect => exact recognizes_readConnection hk
  | monitor =>
      refine .bind (recognizes_readReference hk) ?_
      intro ⟨reference, rest⟩ _
      exact .refl k rest

end Item

theorem kstar_mul (l k : Language TokenKind) : l∗ * k = k + l * (l∗ * k) := by
  calc l∗ * k = (1 + l * l∗) * k := by rw [Language.one_add_self_mul_kstar_eq_kstar]
    _ = k + l * (l∗ * k) := by rw [add_mul, one_mul, mul_assoc]

/-- What may come behind an item of a list, when `k` may come behind the list. -/
def Item.following (within : Section) (k : Language TokenKind) : Language TokenKind :=
  (mark .comma * language within)∗ * (mark .semicolon * k)

theorem Item.following_eq (within : Section) (k : Language TokenKind) :
    following within k =
      mark .semicolon * k + mark .comma * (language within * following within k) := by
  calc following within k
      = mark .semicolon * k + mark .comma * language within * following within k := kstar_mul _ _
    _ = _ := by rw [mul_assoc (mark .comma)]

theorem Item.head?_of_mem_following {within : Section} {w : List TokenKind}
    (hw : w ∈ following within k) : w.head? = some .comma ∨ w.head? = some .semicolon := by
  rw [following_eq] at hw
  rcases hw with hw | hw
  · exact .inr (head?_of_mem_mark_mul hw)
  · exact .inl (head?_of_mem_mark_mul hw)

theorem Item.leads_comma {within : Section} {token : Token} (h : token.kind = .comma) :
    Leads (following within k) (token :: rest) (language within * following within k) rest := by
  have hright : Leads (mark .semicolon * k + mark .comma * (language within * following within k))
      (token :: rest) (mark .comma * (language within * following within k)) (token :: rest) := by
    refine .add_right fun w hw => ?_
    rw [head?_of_mem_mark_mul hw, kinds_cons, List.head?_cons, h]
    simp
  rw [← following_eq] at hright
  exact hright.trans (.of_single (single_mark .comma) (by rw [h]; rfl))

theorem Item.leads_semicolon {within : Section} {token : Token} (h : token.kind = .semicolon) :
    Leads (following within k) (token :: rest) k rest := by
  have hleft : Leads (mark .semicolon * k + mark .comma * (language within * following within k))
      (token :: rest) (mark .semicolon * k) (token :: rest) := by
    refine .add_left fun w hw => ?_
    rw [head?_of_mem_mark_mul hw, kinds_cons, List.head?_cons, h]
    simp
  rw [← following_eq] at hleft
  exact hleft.trans (.of_single (single_mark .semicolon) (by rw [h]; rfl))

theorem Item.exists_mem_following {within : Section} (hk : ∃ w, w ∈ k) :
    ∃ w, w ∈ following within k :=
  exists_mem_mul ⟨[], Language.nil_mem_kstar _⟩ (exists_mem_mul (exists_mem_mark _) hk)

namespace Outline

variable {within : Section}

/-- Whether entries fit a language, of which `k` is what may come behind the tokens read. -/
def Agrees (l k : Language TokenKind) (stop : Position) (tokens : List Token)
    (entries : List Entry) (rest : List Token) : Prop :=
  match problems entries with
  | [] => Leads l tokens k rest
  | diagnostic :: _ =>
    diagnostic.category = .syntactic ∧ FirstWrong l stop tokens diagnostic.position

theorem Agrees.of_leads {entries : List Entry} {behind : List Token} (h : Leads l tokens m rest)
    (hrest : Agrees m k stop rest entries behind) : Agrees l k stop tokens entries behind := by
  unfold Agrees at hrest ⊢
  split at hrest
  · exact h.trans hrest
  · exact ⟨hrest.1, h.firstWrong hrest.2⟩

theorem Agrees.of_problem {diagnostic : Diagnostic} {more : List Diagnostic} {entries : List Entry}
    (hproblems : problems entries = diagnostic :: more)
    (hcategory : diagnostic.category = .syntactic)
    (h : FirstWrong l stop tokens diagnostic.position) : Agrees l k stop tokens entries rest := by
  unfold Agrees
  rw [hproblems]
  exact ⟨hcategory, h⟩

theorem firstWrong_following (hk : ∃ w, w ∈ k)
    (h : ∀ token behind, rest = token :: behind → token.kind ≠ .comma ∧ token.kind ≠ .semicolon) :
    FirstWrong (Item.following within k) stop rest (.ofFront stop rest) := by
  apply firstWrong_of_head (Item.exists_mem_following hk)
  intro w hw heq
  have hhead := Item.head?_of_mem_following hw
  rw [heq] at hhead
  cases rest with
  | nil => rcases hhead with hhead | hhead <;> cases hhead
  | cons token behind =>
      obtain ⟨hcomma, hsemicolon⟩ := h token behind rfl
      rcases hhead with hhead | hhead
      · exact hcomma (Option.some.inj hhead)
      · exact hsemicolon (Option.some.inj hhead)

/-- An item of a list without a problem leads to its end, else its first problem is at the first
wrong place. -/
theorem readSegment_agrees (hk : ∃ w, w ∈ k) (tokens : List Token) :
    (∃ item, readSegment stop within tokens = ([.item item], true) ∧
      Leads (Item.language within * Item.following within k) tokens (Item.following within k)
        (skipItem tokens)) ∨
    ∃ entries diagnostic more, readSegment stop within tokens = (entries, false) ∧
      problems entries = diagnostic :: more ∧ diagnostic.category = .syntactic ∧
      FirstWrong (Item.language within * Item.following within k) stop tokens
        diagnostic.position := by
  have hclosing : Closing (Item.following within k) :=
    ⟨Item.exists_mem_following hk, fun w hw => (Item.head?_of_mem_following hw).imp_right .inl⟩
  have hitem : Recognizes Prod.snd (Item.read stop within tokens) _ _ stop tokens :=
    Item.recognizes_read within hclosing
  unfold readSegment
  cases hread : Item.read stop within tokens with
  | error diagnostic =>
      rw [hread] at hitem
      exact .inr ⟨_, diagnostic, [], rfl, rfl, hitem.1, hitem.2⟩
  | ok value =>
      obtain ⟨item, rest⟩ := value
      rw [hread] at hitem
      by_cases hend : atItemEnd rest
      · obtain ⟨used, rfl, hused⟩ := Item.spelledBy_of_read hread
        have hskip := skipItem_append (Item.not_isTerminator_of_spelledBy hused) hend
        refine .inl ⟨item, by simp [hend], ?_⟩
        rw [hskip]
        exact hitem
      · refine .inr ⟨_, .unexpected stop "',' or ';'" rest, [], by simp only [hend]; rfl,
          rfl, rfl, ?_⟩
        refine hitem.firstWrong (firstWrong_following hk ?_)
        rintro token behind rfl
        constructor
        · intro hkind
          exact hend (by simp [atItemEnd, Token.isTerminator, hkind])
        · intro hkind
          exact hend (by simp [atItemEnd, Token.isTerminator, hkind])

theorem readList_agrees (hk : ∃ w, w ∈ k) (tokens : List Token) :
    Agrees (Item.language within * Item.following within k) k stop tokens
      (readList stop within tokens).1 (readList stop within tokens).2 := by
  fun_induction readList stop within tokens with
  | case1 tokens entries isComplete heq hskip =>
      rcases readSegment_agrees hk tokens with ⟨item, hread, hleads⟩ |
        ⟨_, diagnostic, more, hread, hproblems, hcategory, hwrong⟩
      · cases heq.symm.trans hread
        rw [hskip] at hleads
        refine .of_problem rfl rfl (hleads.firstWrong (firstWrong_following hk ?_))
        intro token behind h
        cases h
      · cases heq.symm.trans hread
        exact .of_problem (by rw [problems_append, hproblems]; rfl) hcategory hwrong
  | case2 tokens entries isComplete heq token rest hskip hcomma following remaining hrest ih =>
      rcases readSegment_agrees hk tokens with ⟨item, hread, hleads⟩ |
        ⟨_, diagnostic, more, hread, hproblems, hcategory, hwrong⟩
      · cases heq.symm.trans hread
        rw [hskip] at hleads
        rw [hrest] at ih
        exact .of_leads (hleads.trans (Item.leads_comma hcomma)) ih
      · cases heq.symm.trans hread
        exact .of_problem (by rw [problems_append, hproblems]; rfl) hcategory hwrong
  | case3 tokens entries isComplete heq token rest hskip hcomma hsemicolon =>
      rcases readSegment_agrees hk tokens with ⟨item, hread, hleads⟩ |
        ⟨_, diagnostic, more, hread, hproblems, hcategory, hwrong⟩
      · cases heq.symm.trans hread
        rw [hskip] at hleads
        exact hleads.trans (Item.leads_semicolon hsemicolon)
      · cases heq.symm.trans hread
        exact .of_problem hproblems hcategory hwrong
  | case4 tokens entries isComplete heq token rest hskip hcomma hsemicolon =>
      rcases readSegment_agrees hk tokens with ⟨item, hread, hleads⟩ |
        ⟨_, diagnostic, more, hread, hproblems, hcategory, hwrong⟩
      · cases heq.symm.trans hread
        rw [hskip] at hleads
        refine .of_problem rfl rfl (hleads.firstWrong (firstWrong_following hk ?_))
        intro same behind h
        cases h
        exact ⟨hcomma, hsemicolon⟩
      · cases heq.symm.trans hread
        exact .of_problem (by rw [problems_append, hproblems]; rfl) hcategory hwrong

theorem Agrees.append {first second : List Entry} {behind : List Token}
    (hfirst : Agrees l m stop tokens first rest) (hsecond : Agrees m k stop rest second behind) :
    Agrees l k stop tokens (first ++ second) behind := by
  unfold Agrees at hfirst
  split at hfirst
  · next hproblems =>
    have hall := Agrees.of_leads hfirst hsecond
    unfold Agrees at hall ⊢
    rw [problems_append, hproblems]
    exact hall
  · next diagnostic more hproblems =>
    exact .of_problem (by rw [problems_append, hproblems]; rfl) hfirst.1 hfirst.2

end Outline

namespace Section

def body : Section → Language TokenKind
  | devices => list Grammar.device * mark .semicolon
  | connect => Grammar.optional (list Grammar.connection) * mark .semicolon
  | monitor => Grammar.optional (list Grammar.signal) * mark .semicolon

def remaining : Option Section → Language TokenKind
  | none => Grammar.definition
  | some devices =>
    Grammar.optional Grammar.connect * (Grammar.optional Grammar.monitor * mark (.keyword .finish))
  | some connect => Grammar.optional Grammar.monitor * mark (.keyword .finish)
  | some monitor => mark (.keyword .finish)

theorem remaining_none :
    remaining none = Grammar.keyword devices * (body devices * remaining (some devices)) := by
  rw [remaining, Grammar.definition, Grammar.devices]
  simp only [mul_assoc, body, remaining]

theorem remaining_devices : remaining (some devices) = remaining (some connect) +
    Grammar.keyword connect * (body connect * remaining (some connect)) := by
  have hconnect : Grammar.connect = Grammar.keyword connect * body connect := by
    rw [Grammar.connect, mul_assoc, body]
  rw [remaining, optional_mul, hconnect, mul_assoc]
  rfl

theorem remaining_connect : remaining (some connect) = remaining (some monitor) +
    Grammar.keyword monitor * (body monitor * remaining (some monitor)) := by
  have hmonitor : Grammar.monitor = Grammar.keyword monitor * body monitor := by
    rw [Grammar.monitor, mul_assoc, body]
  rw [remaining, optional_mul, hmonitor, mul_assoc]
  rfl

theorem list_mul (within : Section) (k : Language TokenKind) :
    list (Item.language within) * (mark .semicolon * k) =
      Item.language within * Item.following within k := by
  rw [list, mul_assoc]
  rfl

/-- The first token of what may come next: the keyword of a section whose turn it is, or the end. -/
theorem head?_of_mem_remaining {last : Option Section} {w : List TokenKind}
    (hw : w ∈ remaining last) : (last.isSome ∧ w.head? = some (.keyword .finish)) ∨
      ∃ opened : Section, opened.MayFollow last ∧ w.head? = some (.keyword (.opening opened)) := by
  have hmonitor {w : List TokenKind} (hw : w ∈ remaining (some monitor)) :
      w.head? = some (.keyword .finish) := by
    rw [show w = [.keyword .finish] from hw]
    rfl
  have hconnect {w : List TokenKind} (hw : w ∈ remaining (some connect)) :
      w.head? = some (.keyword .finish) ∨ w.head? = some (.keyword (.opening monitor)) := by
    rw [remaining_connect] at hw
    rcases hw with hw | hw
    · exact .inl (hmonitor hw)
    · exact .inr (head?_of_mem_mark_mul hw)
  cases last with
  | none =>
      rw [remaining_none] at hw
      exact .inr ⟨devices, rfl, head?_of_mem_mark_mul hw⟩
  | some last =>
      cases last with
      | devices =>
          rw [remaining_devices] at hw
          rcases hw with hw | hw
          · rcases hconnect hw with h | h
            · exact .inl ⟨rfl, h⟩
            · exact .inr ⟨monitor, by decide, h⟩
          · exact .inr ⟨connect, by decide, head?_of_mem_mark_mul hw⟩
      | connect =>
          rcases hconnect hw with h | h
          · exact .inl ⟨rfl, h⟩
          · exact .inr ⟨monitor, by decide, h⟩
      | monitor => exact .inl ⟨rfl, hmonitor hw⟩

theorem exists_mem_remaining (last : Option Section) : ∃ w, w ∈ remaining last := by
  have hfinish := exists_mem_mark (.keyword .finish)
  have hconnect := exists_mem_mul (exists_mem_optional Grammar.monitor) hfinish
  have hdevices := exists_mem_mul (exists_mem_optional Grammar.connect) hconnect
  have hitem : ∃ w, w ∈ Grammar.device := by
    obtain ⟨w, hw⟩ := exists_mem_name
    exact exists_mem_mul (exists_mem_mul (exists_mem_mul exists_mem_name (exists_mem_mark _))
      ⟨w, .inr hw⟩) (exists_mem_optional _)
  cases last with
  | none =>
      rw [remaining_none]
      refine exists_mem_mul (exists_mem_mark _) (exists_mem_mul ?_ hdevices)
      exact exists_mem_mul (exists_mem_mul hitem ⟨[], Language.nil_mem_kstar _⟩) (exists_mem_mark _)
  | some last =>
      cases last with
      | devices => exact hdevices
      | connect => exact hconnect
      | monitor => exact hfinish

theorem leads_opening {last : Option Section} {opened : Section} {token : Token}
    (h : opened.MayFollow last) (hkind : token.kind = .keyword (.opening opened)) :
    Leads (remaining last) (token :: rest) (body opened * remaining (some opened)) rest := by
  have hread {opened : Section} (hkind : token.kind = .keyword (.opening opened)) :
      Leads (Grammar.keyword opened * (body opened * remaining (some opened))) (token :: rest)
        (body opened * remaining (some opened)) rest :=
    .of_single (single_mark _) (by rw [hkind]; rfl)
  have hskip {last opened : Section} (hkind : token.kind = .keyword (.opening opened))
      (hnot : ¬ opened.MayFollow (some last)) :
      ∀ w ∈ remaining (some last), w.head? ≠ (kinds (token :: rest)).head? := by
    intro w hw
    rw [kinds_cons, List.head?_cons, hkind]
    rcases head?_of_mem_remaining hw with ⟨-, hhead⟩ | ⟨other, hother, hhead⟩
    · simp [hhead]
    · rw [hhead]
      intro heq
      cases heq
      exact hnot hother
  have hmonitor (hkind : token.kind = .keyword (.opening monitor)) :
      Leads (remaining (some connect)) (token :: rest)
        (body monitor * remaining (some monitor)) rest := by
    rw [remaining_connect]
    exact (Leads.add_right (hskip hkind (by decide))).trans (hread hkind)
  cases last with
  | none =>
      obtain rfl : opened = devices := h
      rw [remaining_none]
      exact hread hkind
  | some last =>
      cases last <;> cases opened <;> first | exact absurd h (by decide) | skip
      · rw [remaining_devices]
        exact (Leads.add_right (hskip hkind (by decide))).trans (hread hkind)
      · rw [remaining_devices]
        refine (Leads.add_left fun w hw => ?_).trans (hmonitor hkind)
        rw [head?_of_mem_mark_mul hw, kinds_cons, List.head?_cons, hkind]
        decide
      · exact hmonitor hkind

theorem leads_finish {last : Section} {token : Token} (hkind : token.kind = .keyword .finish) :
    Leads (remaining (some last)) (token :: rest) 1 rest := by
  have hskip {opened : Section} {k : Language TokenKind} :
      ∀ w ∈ Grammar.keyword opened * k, w.head? ≠ (kinds (token :: rest)).head? := by
    intro w hw
    rw [head?_of_mem_mark_mul hw, kinds_cons, List.head?_cons, hkind]
    simp
  have hmonitor : Leads (remaining (some monitor)) (token :: rest) 1 rest := by
    have hread : Leads (mark (.keyword .finish) * 1) (token :: rest) 1 rest :=
      .of_single (single_mark _) (by rw [hkind]; rfl)
    rw [mul_one] at hread
    exact hread
  have hconnect : Leads (remaining (some connect)) (token :: rest) 1 rest := by
    rw [remaining_connect]
    exact (Leads.add_left hskip).trans hmonitor
  cases last with
  | devices =>
      rw [remaining_devices]
      exact (Leads.add_left hskip).trans hconnect
  | connect => exact hconnect
  | monitor => exact hmonitor

end Section

namespace Outline

theorem optionalList_agrees (within : Section) (hk : ∃ w, w ∈ k)
    (h : ∀ position rest, tokens ≠ ⟨.semicolon, position⟩ :: rest) :
    Agrees (Grammar.optional (list (Item.language within)) * mark .semicolon * k) k stop tokens
      (readList stop within tokens).1 (readList stop within tokens).2 := by
  have hlist : Agrees (list (Item.language within) * (mark .semicolon * k)) k stop tokens
      (readList stop within tokens).1 (readList stop within tokens).2 := by
    rw [Section.list_mul]
    exact readList_agrees hk tokens
  rw [mul_assoc, optional_mul]
  refine .of_leads (.add_right fun w hw heq => ?_) hlist
  rw [head?_of_mem_mark_mul hw] at heq
  cases tokens with
  | nil => cases heq
  | cons token rest =>
      obtain ⟨kind, position⟩ := token
      obtain rfl : kind = .semicolon := (Option.some.inj heq).symm
      exact h position rest rfl

theorem leads_noList (within : Section) (position : Position) (rest : List Token) :
    Leads (Grammar.optional (list (Item.language within)) * mark .semicolon * k)
      (⟨.semicolon, position⟩ :: rest) k rest := by
  have hread : Leads (mark .semicolon * k) (⟨.semicolon, position⟩ :: rest) k rest :=
    .of_single (single_mark _) rfl
  rw [mul_assoc, optional_mul, Section.list_mul]
  refine .trans (.add_left fun w hw heq => ?_) hread
  obtain ⟨m, hm⟩ := Item.exists_language_eq within
  rw [hm, mul_assoc] at hw
  obtain ⟨kind, ⟨text, htext⟩, hhead⟩ := single_name.head? hw
  rw [hhead, List.singleton_inj.1 htext] at heq
  cases heq

theorem readBody_agrees (opened : Section) (hk : ∃ w, w ∈ k) (tokens : List Token) :
    Agrees (opened.body * k) k stop tokens (readBody stop opened tokens).1
      (readBody stop opened tokens).2 := by
  unfold readBody
  split
  · next position rest => exact leads_noList .connect position rest
  · next position rest => exact leads_noList .monitor position rest
  · next hconnect hmonitor =>
    cases opened with
    | devices =>
        rw [Section.body, mul_assoc]
        show Agrees (list (Item.language .devices) * (mark .semicolon * k)) k _ _ _ _
        rw [Section.list_mul]
        exact readList_agrees hk tokens
    | connect =>
        exact optionalList_agrees .connect hk fun position rest h => hconnect position rest rfl h
    | monitor =>
        exact optionalList_agrees .monitor hk fun position rest h => hmonitor position rest rfl h

theorem firstWrong_remaining {last : Option Section}
    (hfinish : ∀ token rest, tokens = token :: rest → token.kind = .keyword .finish → last = none)
    (hopening : ∀ token rest opened, tokens = token :: rest →
      token.kind = .keyword (.opening opened) → ¬ opened.MayFollow last) :
    FirstWrong (Section.remaining last) stop tokens (.ofFront stop tokens) := by
  apply firstWrong_of_head (Section.exists_mem_remaining last)
  intro w hw heq
  cases tokens with
  | nil =>
      rcases Section.head?_of_mem_remaining hw with ⟨-, hhead⟩ | ⟨opened, -, hhead⟩
      · rw [hhead] at heq
        cases heq
      · rw [hhead] at heq
        cases heq
  | cons token rest =>
      rcases Section.head?_of_mem_remaining hw with ⟨hlast, hhead⟩ | ⟨opened, hfollows, hhead⟩
      · rw [hhead] at heq
        rw [hfinish token rest rfl (Option.some.inj heq).symm] at hlast
        cases hlast
      · rw [hhead] at heq
        exact hopening token rest opened rfl (Option.some.inj heq).symm hfollows

theorem readSections_agrees (last : Option Section) (tokens : List Token) :
    Agrees (Section.remaining last) 1 stop tokens (readSections stop last tokens).entries [] := by
  fun_induction readSections stop last tokens with
  | case1 last =>
      refine .of_problem rfl rfl (firstWrong_remaining ?_ ?_)
      · intro token rest h
        cases h
      · intro token rest opened h
        cases h
  | case2 last token rest hkind =>
      cases last with
      | none =>
          refine .of_problem rfl rfl (firstWrong_remaining ?_ ?_)
          · intro same _ h _
            rfl
          · intro same _ opened h hopening
            cases h
            rw [hkind] at hopening
            cases hopening
      | some last =>
          cases rest with
          | nil => exact Section.leads_finish hkind
          | cons next behind =>
              refine .of_problem rfl rfl ((Section.leads_finish hkind).firstWrong ?_)
              have hempty : ∃ w, w ∈ (1 : Language TokenKind) := ⟨[], rfl⟩
              refine firstWrong_of_head hempty fun w hw => ?_
              rw [show w = [] from hw]
              simp
  | case3 last token rest opened hkind body ih =>
      by_cases hfollows : opened.MayFollow last
      · have hbody : Agrees (opened.body * Section.remaining (some opened))
            (Section.remaining (some opened)) stop rest body.1 body.2 :=
          readBody_agrees opened (Section.exists_mem_remaining _) rest
        have hall := Agrees.of_leads (Section.leads_opening hfollows hkind) (hbody.append ih)
        rw [orderProblems_of_mayFollow hfollows]
        exact hall
      · have hwrong : FirstWrong (Section.remaining last) stop (token :: rest) token.position := by
          refine firstWrong_remaining ?_ ?_
          · intro same _ h hfinish
            cases h
            rw [hkind] at hfinish
            cases hfinish
          · intro same _ other h hother
            cases h
            rw [hkind] at hother
            cases hother
            exact hfollows
        obtain ⟨diagnostic, hproblems, hcategory, hposition⟩ :=
          problems_orderProblems_of_not_mayFollow hfollows token.position
        refine .of_problem (by simp only [prepend, problems_append, hproblems]; rfl) hcategory ?_
        rw [hposition]
        exact hwrong
  | case4 last token rest hfinish hopening ih =>
      refine .of_problem rfl rfl (firstWrong_remaining ?_ ?_)
      · intro same _ h hkind
        cases h
        exact absurd hkind hfinish
      · intro same _ opened h hkind
        cases h
        exact absurd hkind (hopening opened)

/-- A reader has no problem with the sentences of the grammar and with nothing else. -/
theorem problems_readSections_eq_nil_iff {tokens : List Token} :
    problems (readSections stop none tokens).entries = [] ↔ kinds tokens ∈ Grammar.definition := by
  have hagrees : Agrees (Section.remaining none) 1 stop tokens
      (readSections stop none tokens).entries [] := readSections_agrees none tokens
  unfold Agrees at hagrees
  split at hagrees
  · next hproblems => exact ⟨fun _ => hagrees.mem rfl, fun _ => hproblems⟩
  · next diagnostic more hproblems =>
    constructor
    · intro hnone
      rw [hnone] at hproblems
      cases hproblems
    · intro hsentence
      exact absurd hsentence hagrees.2.not_mem

end Outline

end

end LogicBench
