import LogicBench.Definition.Outline

/-!
# What tokens spell

The items that a list of tokens spells, said without a reader: each item is spelled by its own
tokens, a comma stands between two of a section and a semicolon behind the last. A reader that has
no problem has read what the tokens spell, and tokens that spell items are read without a problem.
-/

namespace LogicBench

theorem except_bind_eq_ok_iff {ε α β : Type} {first : Except ε α} {next : α → Except ε β} {b : β} :
    (first >>= next) = .ok b ↔ ∃ a, first = .ok a ∧ next a = .ok b := by
  cases first with
  | error cause =>
      constructor
      · intro h
        cases h
      · intro ⟨a, h, _⟩
        cases h
  | ok a =>
      constructor
      · intro h
        exact ⟨a, rfl, h⟩
      · intro ⟨same, hsame, h⟩
        cases hsame
        exact h

inductive Reference.SpelledBy : Reference → List Token → Prop
  | device (name : String) (position : Position) :
      SpelledBy ⟨name, none, position⟩ [⟨.name name, position⟩]
  | pin (name pin : String) (position dot behind : Position) :
      SpelledBy ⟨name, some pin, position⟩
        [⟨.name name, position⟩, ⟨.dot, dot⟩, ⟨.name pin, behind⟩]

inductive KindWord.SpelledBy : KindWord → TokenKind → Prop
  | known (type : DeviceType) : SpelledBy (.known type) (.keyword (.device type))
  | unknown (word : String) : SpelledBy (.unknown word) (.name word)

inductive Qualifier.SpelledBy : Option Qualifier → List Token → Prop
  | none : SpelledBy none []
  | some (digits : String) (position : Position) :
      SpelledBy (some ⟨digits, position⟩) [⟨.number digits, position⟩]

namespace Item

inductive SpelledBy : Section → Item → List Token → Prop
  | device {name : String} {position colon : Position} {kind : KindWord} {token : Token}
      {qualifier : Option Qualifier} {tokens : List Token} (hkind : kind.SpelledBy token.kind)
      (hqualifier : Qualifier.SpelledBy qualifier tokens) :
      SpelledBy .devices (.device ⟨name, position, kind, token.position, qualifier⟩)
        (⟨.name name, position⟩ :: ⟨.colon, colon⟩ :: token :: tokens)
  | connection {source destination : Reference} {left right : List Token} {arrow : Position}
      (hsource : source.SpelledBy left) (hdestination : destination.SpelledBy right) :
      SpelledBy .connect (.connection source destination) (left ++ ⟨.arrow, arrow⟩ :: right)
  | signal {reference : Reference} {tokens : List Token} (h : reference.SpelledBy tokens) :
      SpelledBy .monitor (.signal reference) tokens

/-- Whether tokens spell a list of items up to the semicolon behind it. -/
inductive ListSpelledBy (within : Section) : List Item → List Token → Prop
  | last {item : Item} {tokens : List Token} {semicolon : Position}
      (h : item.SpelledBy within tokens) :
      ListSpelledBy within [item] (tokens ++ [⟨.semicolon, semicolon⟩])
  | more {item : Item} {items : List Item} {tokens rest : List Token} {comma : Position}
      (h : item.SpelledBy within tokens) (hrest : ListSpelledBy within items rest) :
      ListSpelledBy within (item :: items) (tokens ++ ⟨.comma, comma⟩ :: rest)

inductive BodySpelledBy : Section → List Item → List Token → Prop
  | items {within : Section} {items : List Item} {tokens : List Token}
      (h : ListSpelledBy within items tokens) : BodySpelledBy within items tokens
  | noConnections (semicolon : Position) : BodySpelledBy .connect [] [⟨.semicolon, semicolon⟩]
  | noSignals (semicolon : Position) : BodySpelledBy .monitor [] [⟨.semicolon, semicolon⟩]

end Item

def Section.MayFollow (opened : Section) : Option Section → Prop
  | none => opened = .devices
  | some last => last.rank < opened.rank

instance (opened : Section) (last : Option Section) : Decidable (opened.MayFollow last) :=
  match last with
  | none => inferInstanceAs (Decidable (opened = .devices))
  | some last => inferInstanceAs (Decidable (last.rank < opened.rank))

/-- Whether tokens spell the rest of a definition behind the section `last`. -/
inductive Item.SectionsSpelledBy : Option Section → List Item → List Token → Prop
  | finish {last : Section} {position : Position} :
      SectionsSpelledBy (some last) [] [⟨.keyword .finish, position⟩]
  | opening {last : Option Section} {opened : Section} {position : Position}
      {items rest : List Item} {tokens behind : List Token} (horder : opened.MayFollow last)
      (hbody : BodySpelledBy opened items tokens)
      (hrest : SectionsSpelledBy (some opened) rest behind) :
      SectionsSpelledBy last (items ++ rest)
        (⟨.keyword (.opening opened), position⟩ :: tokens ++ behind)

namespace Item

variable {stop : Position} {tokens rest : List Token}

theorem readName_eq_ok_iff {expected text : String} :
    readName stop expected tokens = .ok (text, rest) ↔
      ∃ position, tokens = ⟨.name text, position⟩ :: rest := by
  unfold readName
  split
  · next name position behind =>
    constructor
    · intro h
      cases h
      exact ⟨position, rfl⟩
    · intro ⟨_, h⟩
      cases h
      rfl
  · next hname =>
    constructor
    · intro h
      cases h
    · intro ⟨position, h⟩
      exact absurd h (hname text position rest)

theorem readMark_eq_ok_iff {mark : TokenKind} :
    readMark stop mark tokens = .ok rest ↔ ∃ position, tokens = ⟨mark, position⟩ :: rest := by
  unfold readMark
  constructor
  · intro h
    split at h
    · next token behind =>
      split at h
      · next hkind =>
        cases h
        exact ⟨token.position, by rw [← hkind]⟩
      · cases h
    · cases h
  · intro ⟨position, h⟩
    rw [h]
    simp

theorem spelledBy_of_readReference {reference : Reference}
    (h : readReference stop tokens = .ok (reference, rest)) :
    ∃ used, tokens = used ++ rest ∧ reference.SpelledBy used := by
  unfold readReference at h
  obtain ⟨⟨owner, behind⟩, howner, h⟩ := except_bind_eq_ok_iff.1 h
  obtain ⟨position, rfl⟩ := readName_eq_ok_iff.1 howner
  simp only at h
  split at h
  · next dot behindDot _ =>
    obtain ⟨⟨pin, behindPin⟩, hpin, h⟩ := except_bind_eq_ok_iff.1 h
    obtain ⟨place, rfl⟩ := readName_eq_ok_iff.1 hpin
    cases h
    exact ⟨_, rfl, .pin owner pin position dot place⟩
  · cases h
    exact ⟨_, rfl, .device owner position⟩

theorem spelledBy_of_readKind {kind : KindWord} (h : readKind stop tokens = .ok (kind, rest)) :
    ∃ token, tokens = token :: rest ∧ kind.SpelledBy token.kind := by
  unfold readKind at h
  split at h
  · next type position behind =>
    cases h
    exact ⟨_, rfl, .known type⟩
  · next word position behind =>
    cases h
    exact ⟨_, rfl, .unknown word⟩
  · cases h

theorem spelledBy_of_readQualifier {kind : KindWord} {qualifier : Option Qualifier}
    (h : readQualifier stop kind tokens = .ok (qualifier, rest)) :
    ∃ used, tokens = used ++ rest ∧ Qualifier.SpelledBy qualifier used := by
  unfold readQualifier at h
  split at h
  · next digits position behind =>
    cases h
    exact ⟨_, rfl, .some digits position⟩
  · cases h
  · cases h
  · cases h
    exact ⟨[], rfl, .none⟩

theorem spelledBy_of_read {within : Section} {item : Item}
    (h : Item.read stop within tokens = .ok (item, rest)) :
    ∃ used, tokens = used ++ rest ∧ item.SpelledBy within used := by
  cases within with
  | devices =>
      unfold Item.read readDevice at h
      obtain ⟨⟨name, behindName⟩, hname, h⟩ := except_bind_eq_ok_iff.1 h
      obtain ⟨behindColon, hcolon, h⟩ := except_bind_eq_ok_iff.1 h
      obtain ⟨⟨kind, behindKind⟩, hkind, h⟩ := except_bind_eq_ok_iff.1 h
      obtain ⟨⟨qualifier, behind⟩, hqualifier, h⟩ := except_bind_eq_ok_iff.1 h
      cases h
      obtain ⟨position, rfl⟩ := readName_eq_ok_iff.1 hname
      obtain ⟨colon, rfl⟩ := readMark_eq_ok_iff.1 hcolon
      obtain ⟨token, rfl, htoken⟩ := spelledBy_of_readKind hkind
      obtain ⟨used, rfl, hused⟩ := spelledBy_of_readQualifier hqualifier
      exact ⟨_, rfl, .device htoken hused⟩
  | connect =>
      unfold Item.read readConnection at h
      obtain ⟨⟨source, behindSource⟩, hsource, h⟩ := except_bind_eq_ok_iff.1 h
      obtain ⟨behindArrow, harrow, h⟩ := except_bind_eq_ok_iff.1 h
      obtain ⟨⟨destination, behind⟩, hdestination, h⟩ := except_bind_eq_ok_iff.1 h
      cases h
      obtain ⟨left, rfl, hleft⟩ := spelledBy_of_readReference hsource
      obtain ⟨arrow, rfl⟩ := readMark_eq_ok_iff.1 harrow
      obtain ⟨right, rfl, hright⟩ := spelledBy_of_readReference hdestination
      exact ⟨left ++ ⟨.arrow, arrow⟩ :: right, by simp, .connection hleft hright⟩
  | monitor =>
      unfold Item.read readSignal at h
      obtain ⟨⟨reference, behind⟩, hreference, h⟩ := except_bind_eq_ok_iff.1 h
      cases h
      obtain ⟨used, rfl, hused⟩ := spelledBy_of_readReference hreference
      exact ⟨used, rfl, .signal hused⟩

theorem readReference_of_spelledBy {reference : Reference} (h : reference.SpelledBy tokens)
    (hrest : ∀ position behind, rest ≠ ⟨.dot, position⟩ :: behind) :
    readReference stop (tokens ++ rest) = .ok (reference, rest) := by
  cases h with
  | device name position =>
      simp only [readReference, List.singleton_append, readName, Bind.bind, Except.bind]
      rfl
  | pin name pin position dot behind => rfl

theorem readQualifier_of_spelledBy {kind : KindWord} {qualifier : Option Qualifier}
    (h : Qualifier.SpelledBy qualifier tokens) (hrest : Outline.atItemEnd rest) :
    readQualifier stop kind (tokens ++ rest) = .ok (qualifier, rest) := by
  cases h with
  | none =>
      unfold readQualifier
      rw [List.nil_append]
      split
      · cases hrest
      · cases hrest
      · cases hrest
      · rfl
  | some digits position => rfl

/-- Tokens that spell an item are read as that item when the item ends behind them. -/
theorem read_of_spelledBy {within : Section} {item : Item} (h : item.SpelledBy within tokens)
    (hrest : Outline.atItemEnd rest) :
    Item.read stop within (tokens ++ rest) = .ok (item, rest) := by
  have hdot (position : Position) (behind : List Token) : rest ≠ ⟨.dot, position⟩ :: behind := by
    intro hdot
    rw [hdot] at hrest
    cases hrest
  cases h with
  | @device name position colon kind token qualifier tokens hkind hqualifier =>
      have hread : readQualifier stop kind (tokens ++ rest) = .ok (qualifier, rest) :=
        readQualifier_of_spelledBy hqualifier hrest
      have hword : readKind stop (token :: (tokens ++ rest)) = .ok (kind, tokens ++ rest) := by
        obtain ⟨tokenKind, place⟩ := token
        cases hkind <;> rfl
      simp only [Item.read, readDevice, List.cons_append, readName, Bind.bind, Except.bind,
        readMark, if_true, hword, hread]
      rfl
  | @connection source destination left right arrow hsource hdestination =>
      have hleft : readReference stop (left ++ ⟨.arrow, arrow⟩ :: (right ++ rest)) =
          .ok (source, ⟨.arrow, arrow⟩ :: (right ++ rest)) :=
        readReference_of_spelledBy hsource fun position behind h => by cases h
      have hright : readReference stop (right ++ rest) = .ok (destination, rest) :=
        readReference_of_spelledBy hdestination hdot
      simp only [Item.read, readConnection, List.append_assoc, List.cons_append, hleft, Bind.bind,
        Except.bind, readMark, if_true, hright]
      rfl
  | signal h =>
      simp only [Item.read, readSignal, readReference_of_spelledBy h hdot, Bind.bind, Except.bind]
      rfl

theorem not_isTerminator_of_spelledBy {within : Section} {item : Item}
    (h : item.SpelledBy within tokens) : ∀ token ∈ tokens, token.isTerminator = false := by
  have hreference {reference : Reference} {used : List Token} (h : reference.SpelledBy used) :
      ∀ token ∈ used, token.isTerminator = false := by
    cases h <;> simp [Token.isTerminator, Token.isBoundary]
  cases h with
  | @device name position colon kind token qualifier tokens hkind hqualifier =>
      have hword : token.isTerminator = false := by
        obtain ⟨tokenKind, place⟩ := token
        cases hkind <;> rfl
      cases hqualifier <;> simp [Token.isTerminator, Token.isBoundary] <;>
        simpa [Token.isTerminator, Token.isBoundary] using hword
  | connection hsource hdestination =>
      intro token htoken
      rcases List.mem_append.1 htoken with hleft | hright
      · exact hreference hsource token hleft
      · rcases List.mem_cons.1 hright with rfl | hright
        · rfl
        · exact hreference hdestination token hright
  | signal h => exact hreference h

theorem exists_name_of_spelledBy {within : Section} {item : Item}
    (h : item.SpelledBy within tokens) :
    ∃ name position tail, tokens = ⟨.name name, position⟩ :: tail := by
  cases h with
  | device hkind hqualifier => exact ⟨_, _, _, rfl⟩
  | connection hsource hdestination => cases hsource <;> exact ⟨_, _, _, rfl⟩
  | signal h => cases h <;> exact ⟨_, _, _, rfl⟩

theorem exists_name_of_listSpelledBy {within : Section} {items : List Item}
    (h : ListSpelledBy within items tokens) :
    ∃ name position tail, tokens = ⟨.name name, position⟩ :: tail := by
  cases h with
  | last h =>
      obtain ⟨name, position, tail, rfl⟩ := exists_name_of_spelledBy h
      exact ⟨name, position, _, rfl⟩
  | more h _ =>
      obtain ⟨name, position, tail, rfl⟩ := exists_name_of_spelledBy h
      exact ⟨name, position, _, rfl⟩

structure Parts (parts : List (Item × List Token)) (items : List Item) (tokens : List Token) :
    Prop where
  items : parts.map Prod.fst = items
  spelled : ∀ part ∈ parts, ∃ within, part.1.SpelledBy within part.2
  sublist : (parts.flatMap Prod.snd).Sublist tokens

theorem Parts.append {first second : List (Item × List Token)} {items more : List Item}
    (hfirst : Parts first items tokens) (hsecond : Parts second more rest) :
    Parts (first ++ second) (items ++ more) (tokens ++ rest) := by
  refine ⟨by rw [List.map_append, hfirst.items, hsecond.items], ?_, ?_⟩
  · intro part hpart
    rcases List.mem_append.1 hpart with h | h
    · exact hfirst.spelled part h
    · exact hsecond.spelled part h
  · rw [List.flatMap_append]
    exact hfirst.sublist.append hsecond.sublist

theorem Parts.cons_token {parts : List (Item × List Token)} {items : List Item}
    (h : Parts parts items tokens) (token : Token) : Parts parts items (token :: tokens) :=
  ⟨h.items, h.spelled, h.sublist.cons token⟩

theorem parts_singleton {within : Section} {item : Item} (h : item.SpelledBy within tokens) :
    Parts [(item, tokens)] [item] tokens := by
  refine ⟨rfl, fun part hpart => ?_, by simp⟩
  obtain rfl := List.mem_singleton.1 hpart
  exact ⟨within, h⟩

theorem parts_nil (tokens : List Token) : Parts [] [] tokens :=
  ⟨rfl, by simp, List.nil_sublist tokens⟩

theorem ListSpelledBy.exists_parts {within : Section} {items : List Item}
    (h : ListSpelledBy within items tokens) : ∃ parts, Parts parts items tokens := by
  induction h with
  | last h => exact ⟨_, (parts_singleton h).append (parts_nil _)⟩
  | more h _ ih =>
      obtain ⟨parts, hparts⟩ := ih
      exact ⟨_, (parts_singleton h).append (hparts.cons_token _)⟩

theorem BodySpelledBy.exists_parts {opened : Section} {items : List Item}
    (h : BodySpelledBy opened items tokens) : ∃ parts, Parts parts items tokens := by
  cases h with
  | items h => exact h.exists_parts
  | noConnections semicolon => exact ⟨[], parts_nil _⟩
  | noSignals semicolon => exact ⟨[], parts_nil _⟩

theorem SectionsSpelledBy.exists_parts {last : Option Section} {items : List Item}
    (h : SectionsSpelledBy last items tokens) : ∃ parts, Parts parts items tokens := by
  induction h with
  | finish => exact ⟨[], parts_nil _⟩
  | opening _ hbody _ ih =>
      obtain ⟨first, hfirst⟩ := hbody.exists_parts
      obtain ⟨second, hsecond⟩ := ih
      exact ⟨_, (hfirst.cons_token _).append hsecond⟩

theorem exists_device_of_sectionsSpelledBy {items : List Item}
    (h : SectionsSpelledBy none items tokens) : ∃ declared, .device declared ∈ items := by
  have hfirst {items : List Item} {tokens : List Token} (h : ListSpelledBy .devices items tokens) :
      ∃ declared, .device declared ∈ items := by
    cases h with
    | last h => cases h; exact ⟨_, List.mem_cons_self⟩
    | more h _ => cases h; exact ⟨_, List.mem_cons_self⟩
  cases h with
  | opening horder hbody _ =>
      cases horder
      cases hbody with
      | items h =>
          obtain ⟨declared, hdeclared⟩ := hfirst h
          exact ⟨declared, List.mem_append_left _ hdeclared⟩

end Item

def Entry.item? : Entry → Option Item
  | .item found => some found
  | _ => none

def Entry.problem? : Entry → Option Diagnostic
  | .problem _ diagnostic => some diagnostic
  | _ => none

namespace Outline

variable {stop : Position} {within : Section}

def items (entries : List Entry) : List Item :=
  entries.filterMap Entry.item?

def problems (entries : List Entry) : List Diagnostic :=
  entries.filterMap Entry.problem?

@[simp] theorem items_append (first second : List Entry) :
    items (first ++ second) = items first ++ items second :=
  List.filterMap_append

@[simp] theorem problems_append (first second : List Entry) :
    problems (first ++ second) = problems first ++ problems second :=
  List.filterMap_append

@[simp] theorem items_cons_item (item : Item) (entries : List Entry) :
    items (.item item :: entries) = item :: items entries := rfl

@[simp] theorem items_cons_opening (opened : Section) (entries : List Entry) :
    items (.opening opened :: entries) = items entries := rfl

@[simp] theorem problems_cons_item (item : Item) (entries : List Entry) :
    problems (.item item :: entries) = problems entries := rfl

@[simp] theorem problems_cons_opening (opened : Section) (entries : List Entry) :
    problems (.opening opened :: entries) = problems entries := rfl

@[simp] theorem problems_cons_problem (section? : Option Section) (diagnostic : Diagnostic)
    (entries : List Entry) :
    problems (.problem section? diagnostic :: entries) = diagnostic :: problems entries := rfl

@[simp] theorem items_map_item (found : List Item) : items (found.map .item) = found := by
  induction found with
  | nil => rfl
  | cons item rest ih => rw [List.map_cons, items_cons_item, ih]

@[simp] theorem problems_map_item (found : List Item) : problems (found.map .item) = [] := by
  induction found with
  | nil => rfl
  | cons item rest ih => rw [List.map_cons, problems_cons_item, ih]

@[simp] theorem items_nil : items [] = [] := rfl

@[simp] theorem problems_nil : problems [] = [] := rfl

theorem skipItem_append {used rest : List Token}
    (hused : ∀ token ∈ used, token.isTerminator = false) (hrest : atItemEnd rest) :
    skipItem (used ++ rest) = rest := by
  induction used with
  | nil =>
      cases rest with
      | nil => rfl
      | cons token behind =>
          have hend : token.isTerminator = true := hrest
          simp [skipItem, hend]
  | cons token used ih =>
      have htoken := hused token List.mem_cons_self
      have hskip := ih fun other hother => hused other (List.mem_cons_of_mem token hother)
      simpa [skipItem, htoken] using hskip

theorem readSegment_cases (stop : Position) (within : Section) (tokens : List Token) :
    (∃ item used, tokens = used ++ skipItem tokens ∧ item.SpelledBy within used ∧
      atItemEnd (skipItem tokens) ∧ readSegment stop within tokens = ([.item item], true)) ∨
      (problems (readSegment stop within tokens).1 ≠ [] ∧
        (readSegment stop within tokens).2 = false) := by
  unfold readSegment
  split
  · next diagnostic _ => exact .inr ⟨by simp, rfl⟩
  · next item rest hread =>
    obtain ⟨used, rfl, hused⟩ := Item.spelledBy_of_read hread
    split
    · next hend =>
      have hskip := skipItem_append (Item.not_isTerminator_of_spelledBy hused) hend
      exact .inl ⟨item, used, by rw [hskip], hused, by rw [hskip]; exact hend, rfl⟩
    · exact .inr ⟨by simp, rfl⟩

theorem readSegment_of_spelledBy {item : Item} {used rest : List Token}
    (h : item.SpelledBy within used) (hrest : atItemEnd rest) :
    readSegment stop within (used ++ rest) = ([.item item], true) := by
  simp [readSegment, Item.read_of_spelledBy h hrest, hrest]

theorem listSpelledBy_of_readList {tokens : List Token}
    (h : problems (readList stop within tokens).1 = []) :
    ∃ used, tokens = used ++ (readList stop within tokens).2 ∧
      Item.ListSpelledBy within (items (readList stop within tokens).1) used := by
  fun_induction readList stop within tokens with
  | case1 tokens entries isComplete heq hskip =>
      rcases readSegment_cases stop within tokens with ⟨_, _, _, _, _, hread⟩ | ⟨hproblems, -⟩
      · rw [hread] at heq
        cases heq
        simp [missingSemicolon] at h
      · rw [heq] at hproblems
        simp [hproblems] at h
  | case2 tokens entries isComplete heq token rest hskip hcomma following remaining hrest ih =>
      rw [hrest] at ih
      rcases readSegment_cases stop within tokens with
        ⟨item, used, htokens, hused, hend, hread⟩ | ⟨hproblems, -⟩
      · rw [hread] at heq
        cases heq
        obtain ⟨behind, hbehind, hspelled⟩ := ih (by simpa using h)
        obtain ⟨kind, position⟩ := token
        obtain rfl : kind = .comma := hcomma
        rw [hskip, hbehind] at htokens
        exact ⟨used ++ ⟨.comma, position⟩ :: behind, by simp [htokens], .more hused hspelled⟩
      · rw [heq] at hproblems
        simp [hproblems] at h
  | case3 tokens entries isComplete heq token rest hskip hcomma hsemicolon =>
      rcases readSegment_cases stop within tokens with
        ⟨item, used, htokens, hused, hend, hread⟩ | ⟨hproblems, -⟩
      · rw [hread] at heq
        cases heq
        obtain ⟨kind, position⟩ := token
        obtain rfl : kind = .semicolon := hsemicolon
        rw [hskip] at htokens
        have hspelled : Item.ListSpelledBy within [item] (used ++ [⟨.semicolon, position⟩]) :=
          .last hused
        exact ⟨_, by simp [htokens], hspelled⟩
      · rw [heq] at hproblems
        exact absurd h hproblems
  | case4 tokens entries isComplete heq token rest hskip hcomma hsemicolon =>
      rcases readSegment_cases stop within tokens with ⟨_, _, _, _, _, hread⟩ | ⟨hproblems, -⟩
      · rw [hread] at heq
        cases heq
        simp [missingSemicolon] at h
      · rw [heq] at hproblems
        simp [hproblems] at h

theorem readList_of_listSpelledBy {spelled : List Item} {used : List Token}
    (h : Item.ListSpelledBy within spelled used) (rest : List Token) :
    readList stop within (used ++ rest) = (spelled.map .item, rest) := by
  induction h with
  | @last item tokens semicolon h =>
      rw [List.append_assoc, List.singleton_append]
      have hend : atItemEnd (⟨.semicolon, semicolon⟩ :: rest) := rfl
      have hskip := skipItem_append (Item.not_isTerminator_of_spelledBy h) hend
      rw [readList, readSegment_of_spelledBy h hend]
      simp only
      split
      · next hnil =>
        rw [hskip] at hnil
        cases hnil
      · next token behind hcons =>
        rw [hskip] at hcons
        cases hcons
        rfl
  | @more item items tokens behind comma h hrest ih =>
      rw [List.append_assoc, List.cons_append]
      have hend : atItemEnd (⟨.comma, comma⟩ :: (behind ++ rest)) := rfl
      have hskip := skipItem_append (Item.not_isTerminator_of_spelledBy h) hend
      rw [readList, readSegment_of_spelledBy h hend]
      simp only
      split
      · next hnil =>
        rw [hskip] at hnil
        cases hnil
      · next token following hcons =>
        rw [hskip] at hcons
        cases hcons
        simp [ih]

theorem readBody_of_ne_semicolon {opened : Section} {tokens : List Token}
    (h : ∀ position rest, tokens ≠ ⟨.semicolon, position⟩ :: rest) :
    readBody stop opened tokens = readList stop opened tokens := by
  unfold readBody
  split
  · next position rest => exact absurd rfl (h position rest)
  · next position rest => exact absurd rfl (h position rest)
  · rfl

theorem bodySpelledBy_of_readBody {opened : Section} {tokens : List Token}
    (h : problems (readBody stop opened tokens).1 = []) :
    ∃ used, tokens = used ++ (readBody stop opened tokens).2 ∧
      Item.BodySpelledBy opened (items (readBody stop opened tokens).1) used := by
  have hlist (h : problems (readList stop opened tokens).1 = []) :
      ∃ used, tokens = used ++ (readList stop opened tokens).2 ∧
        Item.BodySpelledBy opened (items (readList stop opened tokens).1) used := by
    obtain ⟨used, hused, hspelled⟩ := listSpelledBy_of_readList h
    exact ⟨used, hused, .items hspelled⟩
  unfold readBody at h ⊢
  split at h
  · next position rest => exact ⟨[_], rfl, .noConnections position⟩
  · next position rest => exact ⟨[_], rfl, .noSignals position⟩
  · exact hlist h

theorem readBody_of_bodySpelledBy {opened : Section} {spelled : List Item} {used : List Token}
    (h : Item.BodySpelledBy opened spelled used) (rest : List Token) :
    readBody stop opened (used ++ rest) = (spelled.map .item, rest) := by
  cases h with
  | noConnections semicolon => rfl
  | noSignals semicolon => rfl
  | items h =>
      have hname := Item.exists_name_of_listSpelledBy h
      rw [readBody_of_ne_semicolon, readList_of_listSpelledBy h]
      intro position behind heq
      obtain ⟨name, place, tail, rfl⟩ := hname
      cases heq

theorem orderProblems_of_mayFollow {last : Option Section} {opened : Section}
    (h : opened.MayFollow last) (position : Position) :
    orderProblems last opened position = [] := by
  cases last with
  | none => simp [orderProblems, show opened = .devices from h]
  | some last => simp [orderProblems, Nat.not_le_of_lt h]

theorem problems_orderProblems_of_not_mayFollow {last : Option Section} {opened : Section}
    (h : ¬ opened.MayFollow last) (position : Position) :
    ∃ diagnostic, problems (orderProblems last opened position) = [diagnostic] ∧
      diagnostic.category = .syntactic ∧ diagnostic.position = position := by
  cases last with
  | none =>
      have hnot : ¬ opened = .devices := h
      exact ⟨_, by simp only [orderProblems, if_neg hnot]; rfl, rfl, rfl⟩
  | some last =>
      have hnot : opened.rank ≤ last.rank := Nat.le_of_not_lt h
      exact ⟨_, by simp only [orderProblems, if_pos hnot]; rfl, rfl, rfl⟩

theorem readEnd_cases (stop : Position) (last : Option Section) (keyword : Token)
    (rest : List Token) : (readEnd stop last keyword rest = ⟨[], []⟩ ∧ last.isSome ∧ rest = []) ∨
      problems (readEnd stop last keyword rest).entries ≠ [] := by
  unfold readEnd
  cases last with
  | none => exact .inr (by simp)
  | some last =>
      cases rest with
      | nil => exact .inl ⟨rfl, rfl, rfl⟩
      | cons token behind => exact .inr (by simp)

/-- What is read without a problem spells the items read. -/
theorem sectionsSpelledBy_of_readSections {last : Option Section} {tokens : List Token}
    (h : problems (readSections stop last tokens).entries = []) :
    Item.SectionsSpelledBy last (items (readSections stop last tokens).entries) tokens := by
  fun_induction readSections stop last tokens with
  | case1 => simp at h
  | case2 last token rest hkind =>
      rcases readEnd_cases stop last token rest with ⟨hread, hlast, rfl⟩ | hproblems
      · obtain ⟨last, rfl⟩ := Option.isSome_iff_exists.1 hlast
        obtain ⟨kind, position⟩ := token
        obtain rfl : kind = .keyword .finish := hkind
        rw [hread]
        exact .finish
      · exact absurd h hproblems
  | case3 last token rest opened hkind body ih =>
      simp only [prepend, problems_append, problems_cons_opening, List.append_eq_nil_iff] at h
      obtain ⟨⟨horder, hbody⟩, hrest⟩ := h
      have hfollows : opened.MayFollow last := Decidable.byContradiction fun hnot => by
        obtain ⟨diagnostic, hproblems, -⟩ :=
          problems_orderProblems_of_not_mayFollow hnot token.position
        rw [hproblems] at horder
        cases horder
      obtain ⟨used, hused, hspelled⟩ := bodySpelledBy_of_readBody hbody
      obtain ⟨kind, position⟩ := token
      obtain rfl : kind = .keyword (.opening opened) := hkind
      have hall : Item.SectionsSpelledBy last (items body.1 ++ items
          (readSections stop (some opened) body.2).entries)
          (⟨.keyword (.opening opened), position⟩ :: used ++ body.2) :=
        .opening hfollows hspelled (ih hrest)
      rw [hused]
      simpa [prepend, orderProblems_of_mayFollow hfollows] using hall
  | case4 => simp [prepend] at h

theorem readSections_of_sectionsSpelledBy {last : Option Section} {spelled : List Item}
    {tokens : List Token} (h : Item.SectionsSpelledBy last spelled tokens) :
    items (readSections stop last tokens).entries = spelled ∧
      problems (readSections stop last tokens).entries = [] := by
  induction h with
  | finish => simp [readSections, readEnd]
  | @opening last opened position spelled rest tokens behind horder hbody hrest ih =>
      have hread : readBody stop opened (tokens ++ behind) = (spelled.map .item, behind) :=
        readBody_of_bodySpelledBy hbody behind
      rw [List.cons_append, readSections]
      simp [prepend, hread, orderProblems_of_mayFollow horder, ih]

end Outline

end LogicBench
