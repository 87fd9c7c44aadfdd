import LogicBench.Proofs.Definition.Items
import LogicBench.Proofs.Definition.Segments

/-!
# Where entries stand

Reading goes through a text from its start to its end. What it comes across is at places of the
text, each entry behind the one before. Only problems can meet: one that ends a list and one of the
section that is opened there, or several at the end of the text.
-/

namespace LogicBench

namespace Position

def IsUpTo (position other : Position) : Prop :=
  position = other ∨ position.offset < other.offset

variable {first second third : Position}

theorem IsUpTo.refl (position : Position) : position.IsUpTo position :=
  .inl rfl

theorem IsUpTo.trans_lt (h : first.IsUpTo second) (hnext : second.offset < third.offset) :
    first.offset < third.offset := by
  rcases h with rfl | hlt
  · exact hnext
  · exact Nat.lt_trans hlt hnext

theorem IsUpTo.lt_trans (h : second.IsUpTo third) (hfirst : first.offset < second.offset) :
    first.offset < third.offset := by
  rcases h with rfl | hlt
  · exact hfirst
  · exact Nat.lt_trans hfirst hlt

theorem IsUpTo.trans (h : first.IsUpTo second) (hnext : second.IsUpTo third) :
    first.IsUpTo third := by
  rcases h with rfl | hlt
  · exact hnext
  · exact .inr (hnext.lt_trans hlt)

end Position

namespace Entry

/-- The places at which an entry can be reported. -/
def places : Entry → List Position
  | .opening _ => []
  | .item written => written.positions
  | .problem _ diagnostic => [diagnostic.position]

/-- Whether an entry stands behind a place; a problem may stand at it. -/
def IsBehind (position : Position) : Entry → Prop
  | .opening _ => True
  | .item written => ∀ place ∈ written.positions, position.offset < place.offset
  | .problem _ diagnostic => position.IsUpTo diagnostic.position

def IsBefore (position : Position) : Entry → Prop
  | .opening _ => True
  | .item written => ∀ place ∈ written.positions, place.offset < position.offset
  | .problem _ diagnostic => diagnostic.position.IsUpTo position

def Precedes : Entry → Entry → Prop
  | .problem _ first, .problem _ second => first.position.IsUpTo second.position
  | first, second => ∀ place ∈ first.places, ∀ other ∈ second.places, place.offset < other.offset

def IsGrammatical : Entry → Prop
  | .problem _ diagnostic => diagnostic.category = .syntactic
  | _ => True

variable {entry other : Entry} {position further : Position}

theorem IsBehind.of_isUpTo (h : entry.IsBehind further) (hplace : position.IsUpTo further) :
    entry.IsBehind position := by
  cases entry with
  | opening opened => trivial
  | item written => exact fun place hmem => hplace.trans_lt (h place hmem)
  | problem within diagnostic => exact hplace.trans h

theorem IsBefore.of_isUpTo (h : entry.IsBefore position) (hplace : position.IsUpTo further) :
    entry.IsBefore further := by
  cases entry with
  | opening opened => trivial
  | item written => exact fun place hmem => hplace.lt_trans (h place hmem)
  | problem within diagnostic => exact Position.IsUpTo.trans h hplace

theorem IsBefore.precedes (h : entry.IsBefore position) (hother : other.IsBehind position) :
    entry.Precedes other := by
  cases entry with
  | opening opened => exact fun place hplace => nomatch hplace
  | item written =>
      cases other with
      | opening opened => exact fun _ _ place hplace => nomatch hplace
      | item following =>
          exact fun place hplace next hnext => Nat.lt_trans (h place hplace) (hother next hnext)
      | problem within diagnostic =>
          intro place hplace next hnext
          rw [List.mem_singleton.1 hnext]
          exact Position.IsUpTo.lt_trans hother (h place hplace)
  | problem within diagnostic =>
      cases other with
      | opening opened => exact fun _ _ place hplace => nomatch hplace
      | item following =>
          intro place hplace next hnext
          rw [List.mem_singleton.1 hplace]
          exact Position.IsUpTo.trans_lt h (hother next hnext)
      | problem section' later => exact Position.IsUpTo.trans h hother

end Entry

namespace Outline

structure Spans (known : List Position) (start stop : Position) (entries : List Entry) : Prop where
  places : ∀ entry ∈ entries, entry.places ⊆ known
  grammatical : ∀ entry ∈ entries, entry.IsGrammatical
  ordered : entries.Pairwise Entry.Precedes
  behind : ∀ entry ∈ entries, entry.IsBehind start
  before : ∀ entry ∈ entries, entry.IsBefore stop

variable {known : List Position} {start middle stop : Position} {first second : List Entry}

theorem spans_nil (known : List Position) (start stop : Position) : Spans known start stop [] where
  places := by simp
  grammatical := by simp
  ordered := .nil
  behind := by simp
  before := by simp

theorem spans_singleton {entry : Entry} (hplaces : entry.places ⊆ known)
    (hgrammatical : entry.IsGrammatical) (hbehind : entry.IsBehind start)
    (hbefore : entry.IsBefore stop) : Spans known start stop [entry] where
  places := by simpa using hplaces
  grammatical := by simpa using hgrammatical
  ordered := List.pairwise_singleton _ _
  behind := by simpa using hbehind
  before := by simpa using hbefore

theorem spans_problem {within : Option Section} {diagnostic : Diagnostic}
    (hplace : diagnostic.position ∈ known) (hcategory : diagnostic.category = .syntactic)
    (hbehind : start.IsUpTo diagnostic.position) (hbefore : diagnostic.position.IsUpTo stop) :
    Spans known start stop [.problem within diagnostic] :=
  spans_singleton (by simpa [Entry.places] using hplace) hcategory hbehind hbefore

theorem Spans.mono (h : Spans known start stop first) {further : List Position}
    {earlier later : Position} (hknown : known ⊆ further) (hstart : earlier.IsUpTo start)
    (hstop : stop.IsUpTo later) : Spans further earlier later first where
  places := fun entry hentry => List.Subset.trans (h.places entry hentry) hknown
  grammatical := h.grammatical
  ordered := h.ordered
  behind := fun entry hentry => (h.behind entry hentry).of_isUpTo hstart
  before := fun entry hentry => (h.before entry hentry).of_isUpTo hstop

theorem Spans.append (hfirst : Spans known start middle first)
    (hsecond : Spans known middle stop second) (hstart : start.IsUpTo middle)
    (hstop : middle.IsUpTo stop) : Spans known start stop (first ++ second) where
  places := List.forall_mem_append.2 ⟨hfirst.places, hsecond.places⟩
  grammatical := List.forall_mem_append.2 ⟨hfirst.grammatical, hsecond.grammatical⟩
  ordered := List.pairwise_append.2 ⟨hfirst.ordered, hsecond.ordered,
    fun _ hentry _ hother => (hfirst.before _ hentry).precedes (hsecond.behind _ hother)⟩
  behind := List.forall_mem_append.2
    ⟨hfirst.behind, fun entry hentry => (hsecond.behind entry hentry).of_isUpTo hstart⟩
  before := List.forall_mem_append.2
    ⟨fun entry hentry => (hfirst.before entry hentry).of_isUpTo hstop, hsecond.before⟩

end Outline

namespace Token

/-- The places of tokens, and behind them the end of the text. -/
def places (stop : Position) (tokens : List Token) : List Position :=
  tokens.map (·.position) ++ [stop]

def InOrder (start stop : Position) (tokens : List Token) : Prop :=
  (start :: places stop tokens).Pairwise fun first second => first.offset < second.offset

variable {start stop : Position} {tokens segment rest : List Token} {token : Token}

theorem places_append (stop : Position) (segment rest : List Token) :
    places stop (segment ++ rest) = segment.map (·.position) ++ places stop rest := by
  rw [places, places, List.map_append, List.append_assoc]

theorem places_subset_of_suffix (h : rest <:+ tokens) : places stop rest ⊆ places stop tokens := by
  obtain ⟨segment, rfl⟩ := h
  rw [places_append]
  exact List.subset_append_right _ _

theorem ofFront_mem_places (stop : Position) (tokens : List Token) :
    Position.ofFront stop tokens ∈ places stop tokens := by
  cases tokens <;> exact List.mem_cons_self

theorem ofFront_mem_places_of_suffix (h : rest <:+ tokens) :
    Position.ofFront stop rest ∈ places stop tokens :=
  places_subset_of_suffix h (ofFront_mem_places stop rest)

theorem InOrder.of_suffix (h : InOrder start stop tokens) (hrest : rest <:+ tokens) :
    InOrder start stop rest := by
  obtain ⟨segment, rfl⟩ := hrest
  rw [InOrder, places_append] at h
  exact h.sublist ((List.sublist_append_right _ _).cons_cons _)

theorem InOrder.of_append (h : InOrder start stop (segment ++ rest)) : InOrder start stop rest :=
  h.of_suffix (List.suffix_append _ _)

theorem InOrder.front_lt (h : InOrder start stop rest) :
    start.offset < (Position.ofFront stop rest).offset :=
  (List.pairwise_cons.1 h).1 _ (ofFront_mem_places stop rest)

theorem InOrder.start_lt (h : InOrder start stop (segment ++ rest)) {place : Position}
    (hplace : place ∈ segment.map (·.position)) : start.offset < place.offset := by
  rw [InOrder, places_append] at h
  exact (List.pairwise_cons.1 h).1 place (List.mem_append_left _ hplace)

theorem InOrder.lt_front (h : InOrder start stop (segment ++ rest)) {place : Position}
    (hplace : place ∈ segment.map (·.position)) :
    place.offset < (Position.ofFront stop rest).offset := by
  rw [InOrder, places_append] at h
  exact (List.pairwise_append.1 (List.pairwise_cons.1 h).2).2.2 place hplace _
    (ofFront_mem_places stop rest)

theorem InOrder.front_isUpTo (h : InOrder start stop tokens) :
    (Position.ofFront stop tokens).IsUpTo stop := by
  cases tokens with
  | nil => exact .refl _
  | cons token rest =>
      exact .inr ((List.pairwise_cons.1 (List.pairwise_cons.1 h).2).1 stop
        (List.mem_append_right _ (List.mem_singleton_self stop)))

theorem InOrder.tail (h : InOrder start stop (token :: rest)) : InOrder token.position stop rest :=
  (List.pairwise_cons.1 h).2

theorem behindList_suffix (tokens : List Token) : behindList tokens <:+ tokens := by
  have hend : fromListEnd tokens <:+ tokens := List.dropWhile_suffix _
  unfold behindList
  split
  · next position rest heq =>
    rw [heq] at hend
    exact (List.suffix_cons _ _).trans hend
  · exact hend

end Token

namespace Outline

open Token

variable {start stop : Position} {within : Section} {tokens segment rest : List Token}

theorem ofFront_isUpTo {left : List Token} (h : InOrder start stop (left ++ rest)) :
    (Position.ofFront stop (left ++ rest)).IsUpTo (.ofFront stop rest) := by
  cases left with
  | nil => exact .refl _
  | cons token left => exact .inr (h.lt_front List.mem_cons_self)

theorem spans_readSegment (within : Section) (h : InOrder start stop (segment ++ rest))
    (hrest : atItemEnd rest) :
    Spans (places stop (segment ++ rest)) start (.ofFront stop rest)
      (readSegment stop within (segment ++ rest)).1 := by
  rw [readSegment]
  rcases Segment.read_cases stop within segment hrest with
    ⟨diagnostic, there, hread, -, hcategory, hsame, hplace⟩ | ⟨item, left, -, hread, -⟩
  · rw [← hsame] at hplace
    rw [hread]
    rcases List.mem_append.1 hplace with hmem | hmem
    · refine spans_problem ?_ hcategory (.inr (h.start_lt hmem)) (.inr (h.lt_front hmem))
      rw [places_append]
      exact List.mem_append_left _ hmem
    · have heq : diagnostic.position = .ofFront stop rest := List.mem_singleton.1 hmem
      refine spans_problem ?_ hcategory (.inr (heq ▸ h.of_append.front_lt)) (.inl heq)
      rw [heq]
      exact ofFront_mem_places_of_suffix (List.suffix_append _ _)
  · obtain ⟨used, hused, hspelled⟩ := Item.spelledBy_of_read hread
    rw [hread]
    rw [hused] at h ⊢
    have hplaces : item.positions ⊆ used.map (·.position) :=
      (Item.positions_sublist hspelled).subset
    have hitem : Spans (places stop (used ++ (left ++ rest))) start (.ofFront stop (left ++ rest))
        [.item item] := by
      refine spans_singleton ?_ trivial (fun place hplace => h.start_lt (hplaces hplace))
        (fun place hplace => h.lt_front (hplaces hplace))
      rw [places_append]
      exact List.Subset.trans hplaces (List.subset_append_left _ _)
    have hleft := ofFront_isUpTo h.of_append
    cases hend : atItemEnd (left ++ rest) with
    | true =>
        simp only [hend, if_true]
        exact hitem.mono (List.Subset.refl _) (.refl _) hleft
    | false =>
        simp only [hend]
        exact hitem.append
          (spans_problem (ofFront_mem_places_of_suffix (List.suffix_append _ _)) rfl (.refl _)
            hleft) (.inr h.of_append.front_lt) hleft

theorem spans_missingSemicolon (within : Section) (hplace : start.IsUpTo (.ofFront stop rest))
    (isComplete : Bool) :
    Spans (places stop rest) start (.ofFront stop rest)
      (missingSemicolon stop within isComplete rest) := by
  cases isComplete with
  | true => exact spans_problem (ofFront_mem_places stop rest) rfl hplace (.refl _)
  | false => exact spans_nil _ _ _

theorem spans_last (within : Section) (h : InOrder start stop (segment ++ rest))
    (hrest : atItemEnd rest) :
    let result := readSegment stop within (segment ++ rest)
    Spans (places stop (segment ++ rest)) start (.ofFront stop rest)
      (result.1 ++ missingSemicolon stop within result.2 rest) := by
  intro result
  have hmissing := spans_missingSemicolon within (.refl (.ofFront stop rest)) result.2
  exact (spans_readSegment within h hrest).append
    (hmissing.mono (places_subset_of_suffix (List.suffix_append _ _)) (.refl _) (.refl _))
    (.inr h.of_append.front_lt) (.refl _)

theorem readList_suffix (stop : Position) (within : Section) (tokens : List Token) :
    (readList stop within tokens).2 <:+ tokens := by
  rw [(Segment.gives_readList stop within tokens).2]
  exact behindList_suffix tokens

theorem spans_readList (h : InOrder start stop tokens) :
    Spans (places stop tokens) start (.ofFront stop (readList stop within tokens).2)
      (readList stop within tokens).1 := by
  fun_induction readList stop within tokens generalizing start with
  | case1 tokens entries isComplete heq hskip =>
      obtain ⟨segment, -, htokens, hend⟩ := Segment.exists_segment tokens
      rw [hskip] at htokens hend
      rw [htokens] at h heq ⊢
      have hlast := spans_last within h hend
      rwa [heq] at hlast
  | case2 tokens entries isComplete heq token rest hskip hcomma following remaining hrest ih =>
      obtain ⟨segment, -, htokens, hend⟩ := Segment.exists_segment tokens
      rw [hskip] at htokens hend
      rw [htokens] at h heq ⊢
      have hfirst := spans_readSegment within h hend
      have hfollowing := ih h.of_append.tail
      have hremaining := (h.of_append.tail.of_suffix (readList_suffix stop within rest)).front_lt
      rw [heq] at hfirst
      rw [hrest] at hfollowing hremaining
      have hsuffix : rest <:+ segment ++ token :: rest :=
        (List.suffix_cons _ _).trans (List.suffix_append _ _)
      exact hfirst.append
        (hfollowing.mono (places_subset_of_suffix hsuffix) (.refl _) (.refl _))
        (.inr h.of_append.front_lt) (.inr hremaining)
  | case3 tokens entries isComplete heq token rest hskip hcomma hsemicolon =>
      obtain ⟨segment, -, htokens, hend⟩ := Segment.exists_segment tokens
      rw [hskip] at htokens hend
      rw [htokens] at h heq ⊢
      have hfirst := spans_readSegment within h hend
      rw [heq] at hfirst
      exact hfirst.mono (List.Subset.refl _) (.refl _) (.inr h.of_append.tail.front_lt)
  | case4 tokens entries isComplete heq token rest hskip hcomma hsemicolon =>
      obtain ⟨segment, -, htokens, hend⟩ := Segment.exists_segment tokens
      rw [hskip] at htokens hend
      rw [htokens] at h heq ⊢
      have hlast := spans_last within h hend
      rwa [heq] at hlast

theorem readBody_suffix (stop : Position) (opened : Section) (tokens : List Token) :
    (readBody stop opened tokens).2 <:+ tokens := by
  rw [(Segment.gives_readBody stop opened tokens).2]
  exact behindList_suffix tokens

theorem spans_readBody {opened : Section} (h : InOrder start stop tokens) :
    Spans (places stop tokens) start (.ofFront stop (readBody stop opened tokens).2)
      (readBody stop opened tokens).1 := by
  unfold readBody
  split
  · exact spans_nil _ _ _
  · exact spans_nil _ _ _
  · exact spans_readList h

theorem spans_orderProblems {known : List Position} {position : Position}
    (hplace : position ∈ known) (last : Option Section) (opened : Section) :
    Spans known position position (orderProblems last opened position) := by
  unfold orderProblems
  split <;> split
  · exact spans_problem hplace rfl (.refl _) (.refl _)
  · exact spans_nil _ _ _
  · exact spans_nil _ _ _
  · exact spans_problem hplace rfl (.refl _) (.refl _)

/-- What is wrong at the end of a definition is wrong at the keyword or at the token behind it. -/
theorem spans_readEnd {keyword : Token} (h : InOrder keyword.position stop rest)
    (last : Option Section) :
    Spans (places stop (keyword :: rest)) keyword.position stop
      (readEnd stop last keyword rest).entries := by
  have hstop : keyword.position.IsUpTo stop := .inr (h.of_suffix (List.nil_suffix)).front_lt
  have hkeyword : Spans (places stop (keyword :: rest)) keyword.position keyword.position
      (if last.isNone then [.problem none (.unexpected stop "DEVICES" (keyword :: rest))] else [])
      := by
    split
    · exact spans_problem List.mem_cons_self rfl (.refl _) (.refl _)
    · exact spans_nil _ _ _
  have hrest : Spans (places stop (keyword :: rest)) keyword.position stop
      (if rest.isEmpty then []
        else [.problem none (.unexpected stop "end of file after END" rest)]) := by
    split
    · exact spans_nil _ _ _
    · exact spans_problem (ofFront_mem_places_of_suffix (List.suffix_cons _ _)) rfl
        (.inr h.front_lt) h.front_isUpTo
  exact hkeyword.append hrest (.refl _) hstop

theorem spans_readSections (last : Option Section)
    (h : (places stop tokens).Pairwise fun first second => first.offset < second.offset) :
    Spans (places stop tokens) (.ofFront stop tokens) stop
      (readSections stop last tokens).entries := by
  fun_induction readSections stop last tokens with
  | case1 last => exact spans_problem (List.mem_singleton_self _) rfl (.refl _) (.refl _)
  | case2 last token rest hkind => exact spans_readEnd h last
  | case3 last token rest opened hkind body ih =>
      have hrest : InOrder token.position stop rest := h
      have hbehind := hrest.of_suffix (readBody_suffix stop opened rest)
      have horder : Spans (places stop (token :: rest)) token.position token.position
          (orderProblems last opened token.position) :=
        spans_orderProblems List.mem_cons_self last opened
      have hopening : Spans (places stop (token :: rest)) token.position token.position
          [.opening opened] :=
        spans_singleton (List.nil_subset _) trivial trivial trivial
      have hbody : Spans (places stop (token :: rest)) token.position (.ofFront stop body.2)
          body.1 :=
        (spans_readBody hrest).mono (List.subset_cons_self _ _) (.refl _) (.refl _)
      have hsuffix : body.2 <:+ token :: rest :=
        (readBody_suffix stop opened rest).trans (List.suffix_cons _ _)
      have hfollowing := (ih (List.pairwise_cons.1 hbehind).2).mono
        (places_subset_of_suffix hsuffix) (.refl _) (.refl _)
      have hopened := hopening.append hbody (.refl _) (.inr hbehind.front_lt)
      exact (horder.append hopened (.refl _) (.inr hbehind.front_lt)).append hfollowing
        (.inr hbehind.front_lt) hbehind.front_isUpTo
  | case4 last token rest hfinish hopening ih =>
      have hrest : InOrder token.position stop rest := h
      have hskip : skipToBoundary rest <:+ rest := List.dropWhile_suffix _
      have hsuffix : skipToBoundary rest <:+ token :: rest := hskip.trans (List.suffix_cons _ _)
      have hbehind := hrest.of_suffix hskip
      have hproblem : Spans (places stop (token :: rest)) token.position
          (.ofFront stop (skipToBoundary rest))
          [.problem none (.unexpected stop "a section keyword" (token :: rest))] :=
        spans_problem List.mem_cons_self rfl (.refl _) (.inr hbehind.front_lt)
      have hfollowing := (ih (List.pairwise_cons.1 hbehind).2).mono
        (places_subset_of_suffix hsuffix) (.refl _) (.refl _)
      exact hproblem.append hfollowing (.inr hbehind.front_lt) hbehind.front_isUpTo

end Outline

end LogicBench
