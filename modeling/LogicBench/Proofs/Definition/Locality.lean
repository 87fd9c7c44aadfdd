import LogicBench.Proofs.Definition.Spelling

/-!
# Reading is local

No reader of items looks behind the comma, semicolon or section keyword that ends a segment of a
list. What it makes of a segment in a definition is therefore what it makes of the segment in front
of any other end: the same item and the same tokens left over, or a failure at the same place.
-/

namespace LogicBench

structure SameEnd (stop stop' : Position) (rest rest' : List Token) : Prop where
  here : Outline.atItemEnd rest
  there : Outline.atItemEnd rest'
  position : Position.ofFront stop rest = .ofFront stop' rest'

/-- Whether two results of reading a segment, in front of `rest` and of `rest'`, are the same: they
give the same value and leave the same part of the segment, or fail at the same place in front of
the same part. -/
inductive Alike {α : Type} (stop stop' : Position) (rest rest' segment : List Token) :
    Except Diagnostic (α × List Token) → Except Diagnostic (α × List Token) → Prop
  | ok (value : α) {left : List Token} (hleft : left <:+ segment) :
      Alike stop stop' rest rest' segment (.ok (value, left ++ rest)) (.ok (value, left ++ rest'))
  | error {left : List Token} (hleft : left <:+ segment) {here there : Diagnostic}
      (hcategory : here.category = .syntactic)
      (hhere : here.position = .ofFront stop (left ++ rest))
      (hthere : there.position = .ofFront stop' (left ++ rest')) :
      Alike stop stop' rest rest' segment (.error here) (.error there)

section

variable {α β : Type} {stop stop' : Position} {rest rest' segment part : List Token}

theorem SameEnd.front (h : SameEnd stop stop' rest rest') (segment : List Token) :
    Position.ofFront stop (segment ++ rest) = .ofFront stop' (segment ++ rest') := by
  cases segment with
  | nil => exact h.position
  | cons token segment => rfl

namespace Alike

theorem of_suffix {first second : Except Diagnostic (α × List Token)}
    (h : Alike stop stop' rest rest' part first second) (hpart : part <:+ segment) :
    Alike stop stop' rest rest' segment first second := by
  cases h with
  | ok value hleft => exact .ok value (hleft.trans hpart)
  | error hleft hcategory hhere hthere => exact .error (hleft.trans hpart) hcategory hhere hthere

theorem bind {first second : Except Diagnostic (α × List Token)}
    {next next' : α × List Token → Except Diagnostic (β × List Token)}
    (h : Alike stop stop' rest rest' segment first second)
    (hnext : ∀ value left, left <:+ segment →
      Alike stop stop' rest rest' left (next (value, left ++ rest))
        (next' (value, left ++ rest'))) :
    Alike stop stop' rest rest' segment (first >>= next) (second >>= next') := by
  cases h with
  | ok value hleft => exact (hnext value _ hleft).of_suffix hleft
  | error hleft hcategory hhere hthere => exact .error hleft hcategory hhere hthere

theorem bind_mark {first second : Except Diagnostic (List Token)}
    {next next' : List Token → Except Diagnostic (β × List Token)}
    (h : Alike stop stop' rest rest' segment (first.map (Prod.mk ())) (second.map (Prod.mk ())))
    (hnext : ∀ left, left <:+ segment →
      Alike stop stop' rest rest' left (next (left ++ rest)) (next' (left ++ rest'))) :
    Alike stop stop' rest rest' segment (first >>= next) (second >>= next') := by
  have hbind (result : Except Diagnostic (List Token))
      (next : List Token → Except Diagnostic (β × List Token)) :
      result >>= next = result.map (Prod.mk ()) >>= fun value => next value.2 := by
    cases result <;> rfl
  rw [hbind, hbind]
  exact h.bind fun _ left hleft => hnext left hleft

end Alike

namespace Item

theorem readName_alike (h : SameEnd stop stop' rest rest') (expected : String)
    (segment : List Token) : Alike stop stop' rest rest' segment
      (readName stop expected (segment ++ rest)) (readName stop' expected (segment ++ rest')) := by
  have hend {stop : Position} {rest : List Token} (hrest : Outline.atItemEnd rest) :
      readName stop expected rest = .error (.unexpected stop expected rest) := by
    unfold readName
    split
    · cases hrest
    · rfl
  cases segment with
  | nil =>
      rw [List.nil_append, List.nil_append, hend h.here, hend h.there]
      exact .error List.suffix_rfl rfl rfl rfl
  | cons token segment =>
      obtain ⟨kind, position⟩ := token
      cases kind with
      | name text => exact .ok text (List.suffix_cons _ _)
      | _ => exact .error List.suffix_rfl rfl rfl rfl

theorem readMark_alike (h : SameEnd stop stop' rest rest') {mark : TokenKind}
    (hmark : ∀ token : Token, token.kind = mark → token.isTerminator = false)
    (segment : List Token) : Alike stop stop' rest rest' segment
      ((readMark stop mark (segment ++ rest)).map (Prod.mk ()))
      ((readMark stop' mark (segment ++ rest')).map (Prod.mk ())) := by
  have hend {stop : Position} {rest : List Token} (hrest : Outline.atItemEnd rest) :
      readMark stop mark rest = .error (.unexpected stop mark.description rest) := by
    cases rest with
    | nil => rfl
    | cons token rest =>
        have hkind : token.kind ≠ mark := by
          intro hkind
          have hterminator : token.isTerminator = true := hrest
          rw [hmark token hkind] at hterminator
          cases hterminator
        rw [readMark, if_neg hkind]
  cases segment with
  | nil =>
      rw [List.nil_append, List.nil_append, hend h.here, hend h.there]
      exact .error List.suffix_rfl rfl rfl rfl
  | cons token segment =>
      simp only [List.cons_append, readMark]
      split
      · exact .ok () (List.suffix_cons _ _)
      · exact .error List.suffix_rfl rfl rfl rfl

theorem readKind_alike (h : SameEnd stop stop' rest rest') (segment : List Token) :
    Alike stop stop' rest rest' segment
      (readKind stop (segment ++ rest)) (readKind stop' (segment ++ rest')) := by
  have hend {stop : Position} {rest : List Token} (hrest : Outline.atItemEnd rest) :
      readKind stop rest = .error (.unexpected stop "a device kind" rest) := by
    unfold readKind
    split
    · cases hrest
    · cases hrest
    · rfl
  cases segment with
  | nil =>
      rw [List.nil_append, List.nil_append, hend h.here, hend h.there]
      exact .error List.suffix_rfl rfl rfl rfl
  | cons token segment =>
      obtain ⟨kind, position⟩ := token
      cases kind with
      | keyword word =>
          cases word with
          | device type => exact .ok (KindWord.known type) (List.suffix_cons _ _)
          | _ => exact .error List.suffix_rfl rfl rfl rfl
      | name text => exact .ok (KindWord.unknown text) (List.suffix_cons _ _)
      | _ => exact .error List.suffix_rfl rfl rfl rfl

theorem readQualifier_alike (h : SameEnd stop stop' rest rest') (kind : KindWord)
    (segment : List Token) : Alike stop stop' rest rest' segment
      (readQualifier stop kind (segment ++ rest))
      (readQualifier stop' kind (segment ++ rest')) := by
  cases segment with
  | nil =>
      have hhere : readQualifier stop kind ([] ++ rest) = .ok (none, [] ++ rest) :=
        readQualifier_of_spelledBy .none h.here
      have hthere : readQualifier stop' kind ([] ++ rest') = .ok (none, [] ++ rest') :=
        readQualifier_of_spelledBy .none h.there
      rw [hhere, hthere]
      exact .ok none List.suffix_rfl
  | cons token segment =>
      obtain ⟨tokenKind, position⟩ := token
      cases tokenKind with
      | number digits => exact .ok (some (⟨digits, position⟩ : Qualifier)) (List.suffix_cons _ _)
      | stray c =>
          cases kind with
          | known type => exact .error List.suffix_rfl rfl rfl rfl
          | unknown word => exact .ok none List.suffix_rfl
      | openComment body =>
          cases kind with
          | known type => exact .error List.suffix_rfl rfl rfl rfl
          | unknown word => exact .ok none List.suffix_rfl
      | _ => exact .ok none List.suffix_rfl

/-- Behind the name of a device, a dot decides whether a pin is named; no segment ends at a dot. -/
theorem readReference_alike (h : SameEnd stop stop' rest rest') (segment : List Token) :
    Alike stop stop' rest rest' segment
      (readReference stop (segment ++ rest)) (readReference stop' (segment ++ rest')) := by
  unfold readReference
  rw [h.front]
  refine (readName_alike h _ segment).bind fun owner left hleft => ?_
  cases left with
  | nil =>
      simp only [List.nil_append]
      split
      · cases h.here
      · split
        · cases h.there
        · exact .ok _ List.suffix_rfl
  | cons token left =>
      obtain ⟨kind, position⟩ := token
      cases kind with
      | dot =>
          refine Alike.of_suffix ?_ (List.suffix_cons _ left)
          exact (readName_alike h _ left).bind fun pin left hleft => .ok _ List.suffix_rfl
      | _ => exact .ok _ List.suffix_rfl

theorem isTerminator_of_mark {mark : TokenKind} (hmark : mark = .colon ∨ mark = .arrow)
    (token : Token) (hkind : token.kind = mark) : token.isTerminator = false := by
  rcases hmark with rfl | rfl <;> simp [Token.isTerminator, Token.isBoundary, hkind]

theorem readDevice_alike (h : SameEnd stop stop' rest rest') (segment : List Token) :
    Alike stop stop' rest rest' segment
      (readDevice stop (segment ++ rest)) (readDevice stop' (segment ++ rest')) := by
  unfold readDevice
  rw [h.front]
  refine (readName_alike h _ segment).bind fun name left _ => ?_
  refine (readMark_alike h (isTerminator_of_mark (.inl rfl)) left).bind_mark fun behindColon _ => ?_
  rw [h.front]
  refine (readKind_alike h behindColon).bind fun kind left _ => ?_
  exact (readQualifier_alike h kind left).bind fun qualifier left _ => .ok _ List.suffix_rfl

theorem readConnection_alike (h : SameEnd stop stop' rest rest') (segment : List Token) :
    Alike stop stop' rest rest' segment
      (readConnection stop (segment ++ rest)) (readConnection stop' (segment ++ rest')) := by
  refine (readReference_alike h segment).bind fun source left _ => ?_
  refine (readMark_alike h (isTerminator_of_mark (.inr rfl)) left).bind_mark fun behindArrow _ => ?_
  exact (readReference_alike h behindArrow).bind fun _ left _ => .ok _ List.suffix_rfl

/-- Reading an item in front of the end of a segment gives the same whatever the end is. -/
theorem read_alike (h : SameEnd stop stop' rest rest') (within : Section) (segment : List Token) :
    Alike stop stop' rest rest' segment
      (Item.read stop within (segment ++ rest)) (Item.read stop' within (segment ++ rest')) := by
  cases within with
  | devices => exact readDevice_alike h segment
  | connect => exact readConnection_alike h segment
  | monitor => exact (readReference_alike h segment).bind fun _ left _ => .ok _ List.suffix_rfl

end Item

end

end LogicBench
