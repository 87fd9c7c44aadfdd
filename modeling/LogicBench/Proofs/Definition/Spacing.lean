import LogicBench.Proofs.Definition.Relocation
import LogicBench.Proofs.Definition.Tiling
import Mathlib.Logic.Equiv.Basic

/-!
# Spacing

The tokens of a text can be written down again with any layout between them. The new text has the
same tokens at other places, and describes the same network.
-/

namespace LogicBench

inductive Spaced : List TokenKind → List Char → Prop
  | nil : Spaced [] []
  | last (kind : TokenKind) : Spaced [kind] kind.spelling
  | cons {gap text : List Char} {next : TokenKind} {kinds : List TokenKind} (kind : TokenKind)
      (layout : Layout gap) (apart : gap ≠ []) (rest : Spaced (next :: kinds) text) :
      Spaced (kind :: next :: kinds) (kind.spelling ++ (gap ++ text))

theorem spaced_intercalate {gap : List Char} (layout : Layout gap) (apart : gap ≠ [])
    (kinds : List TokenKind) : Spaced kinds (gap.intercalate (kinds.map TokenKind.spelling)) := by
  induction kinds with
  | nil => exact .nil
  | cons kind rest ih =>
      cases rest with
      | nil => simpa using Spaced.last kind
      | cons next rest => simpa using Spaced.cons kind layout apart ih

/-! ## Tokens in a spaced text -/

theorem Layout.exists_head {gap : List Char} (layout : Layout gap) (apart : gap ≠ []) :
    ∃ c rest, gap = c :: rest ∧ c.isAlphanum = false ∧ c ≠ '*' := by
  cases layout with
  | nil => exact absurd rfl apart
  | cons separator _ =>
      cases separator with
      | @blank c hblank =>
          refine ⟨c, _, rfl, Text.isAlphanum_of_isBlank hblank, ?_⟩
          rintro rfl
          cases hblank
      | lineComment => exact ⟨'#', _, rfl, rfl, by decide⟩
      | blockComment => exact ⟨'/', _, rfl, rfl, by decide⟩

namespace TokenKind

variable {kind : TokenKind}

theorem endsBefore_nil (kind : TokenKind) : kind.EndsBefore [] := by
  cases kind <;> simp [EndsBefore]

/-- No token but an open comment goes on into layout behind it. -/
theorem endsBefore_layout (hclosed : ∀ body, kind ≠ .openComment body) {gap : List Char}
    (layout : Layout gap) (apart : gap ≠ []) (text : List Char) :
    kind.EndsBefore (gap ++ text) := by
  obtain ⟨c, rest, rfl, halphanum, hstar⟩ := layout.exists_head apart
  have hdigit := (Text.isAlphanum_eq_false_iff.1 halphanum).2
  cases kind with
  | openComment body => exact absurd rfl (hclosed body)
  | _ => simp [EndsBefore, halphanum, hdigit, hstar]

end TokenKind

theorem Spaced.exists_tiles {kinds : List TokenKind} {text : List Char} (h : Spaced kinds text)
    (hproper : ∀ kind ∈ kinds, kind.Proper)
    (hclosed : ∀ kind ∈ kinds.dropLast, ∀ body, kind ≠ .openComment body) {gap : List Char}
    (layout : Layout gap) (before : List Char) :
    ∃ tokens, Tiles before (gap ++ text) tokens ∧ tokens.map Token.kind = kinds := by
  induction h generalizing gap before with
  | nil =>
      rw [List.append_nil]
      exact ⟨[], .stop (.closed layout), rfl⟩
  | last kind =>
      have htiles : Tiles before (gap ++ (kind.spelling ++ [])) _ :=
        .token layout (hproper kind (by simp)) kind.endsBefore_nil (.stop (.closed .nil))
      rw [List.append_nil] at htiles
      exact ⟨_, htiles, rfl⟩
  | @cons next text other kinds kind hnext hapart _ ih =>
      have hother : ∀ later ∈ (other :: kinds).dropLast, ∀ body, later ≠ .openComment body :=
        fun later hlater => hclosed later (List.mem_cons_of_mem _ hlater)
      obtain ⟨tokens, htiles, hkinds⟩ := ih (fun later hlater => hproper later (.tail _ hlater))
        hother hnext (before ++ gap ++ kind.spelling)
      have hends := TokenKind.endsBefore_layout (hclosed kind (by simp)) hnext hapart text
      exact ⟨_, .token layout (hproper kind (by simp)) hends htiles, by simp [hkinds]⟩

/-! ## From places to places -/

theorem exists_perm_map_eq {α : Type} [DecidableEq α] {first second : List α}
    (hfirst : first.Nodup) (hsecond : second.Nodup) (hlength : first.length = second.length) :
    ∃ e : Equiv.Perm α, first.map e = second := by
  induction first generalizing second with
  | nil =>
      obtain rfl := List.length_eq_zero_iff.1 hlength.symm
      exact ⟨.refl α, rfl⟩
  | cons a rest ih =>
      cases second with
      | nil => cases hlength
      | cons b others =>
          obtain ⟨ha, hrest⟩ := List.nodup_cons.1 hfirst
          obtain ⟨hb, hothers⟩ := List.nodup_cons.1 hsecond
          obtain ⟨e, rfl⟩ := ih hrest hothers (Nat.succ.inj hlength)
          refine ⟨e.trans (Equiv.swap (e a) b), ?_⟩
          -- The swap sends `a` to `b`, and leaves the other places where they came to be.
          have hswap : ∀ x ∈ rest, Equiv.swap (e a) b (e x) = e x := by
            intro x hx
            refine Equiv.swap_apply_of_ne_of_ne ?_ ?_
            · exact fun heq => ha (e.injective heq ▸ hx)
            · exact fun heq => hb (heq ▸ List.mem_map_of_mem hx)
          rw [List.map_cons, Equiv.trans_apply, Equiv.swap_apply_left]
          exact congrArg (b :: ·) (List.map_congr_left hswap)

namespace Token

variable {f : Position → Position}

theorem filterMap_name?_move (tokens : List Token) :
    (tokens.map (Token.move f)).filterMap name? = tokens.filterMap name? := by
  rw [List.filterMap_map]
  rfl

theorem eq_map_move {tokens others : List Token} (hkinds : others.map kind = tokens.map kind)
    (hpositions : tokens.map (f ∘ position) = others.map position) :
    others = tokens.map (Token.move f) := by
  induction tokens generalizing others with
  | nil => simpa using hkinds
  | cons token rest ih =>
      cases others with
      | nil => cases hkinds
      | cons other others =>
          obtain ⟨hkind, hotherKinds⟩ := List.cons.inj hkinds
          obtain ⟨hposition, hotherPositions⟩ := List.cons.inj hpositions
          obtain ⟨kind, position⟩ := other
          obtain rfl : kind = token.kind := hkind
          obtain rfl : f token.position = position := hposition
          rw [ih hotherKinds hotherPositions]
          rfl

end Token

namespace TokenStream

theorem ne_openComment_of_mem_dropLast {source : String} {kind : TokenKind}
    (h : kind ∈ ((ofSource source).tokens.map Token.kind).dropLast) (body : String) :
    kind ≠ .openComment body := by
  rintro rfl
  rw [← List.map_dropLast] at h
  obtain ⟨token, htoken, hkind⟩ := List.mem_map.1 h
  obtain ⟨earlier, later, hsplit⟩ := List.append_of_mem htoken
  have hne : (ofSource source).tokens ≠ [] := by
    intro hnil
    simp [hnil] at htoken
  have hall := List.dropLast_concat_getLast hne
  rw [hsplit, List.append_assoc, List.cons_append] at hall
  have hlater := (tiles_ofSource source).later_eq_nil hall.symm hkind
  simp at hlater

theorem kinds_of_spaced {source rewritten : String}
    (h : Spaced ((ofSource source).tokens.map Token.kind) rewritten.toList) :
    (ofSource rewritten).tokens.map Token.kind = (ofSource source).tokens.map Token.kind := by
  have hproper : ∀ kind ∈ (ofSource source).tokens.map Token.kind, kind.Proper := by
    intro kind hkind
    obtain ⟨token, htoken, rfl⟩ := List.mem_map.1 hkind
    exact proper_of_mem htoken
  obtain ⟨tokens, htiles, hkinds⟩ :=
    h.exists_tiles hproper (fun _ => ne_openComment_of_mem_dropLast) .nil []
  rw [List.nil_append] at htiles
  rw [← hkinds, ← htiles.place_eq, (tiles_ofSource rewritten).place_eq]

/-- The places in a text differ from one another and from the default, which is on no line. -/
theorem nodup_default_places (source : String) :
    (default ::
      ((ofSource source).tokens.map Token.position ++ [(ofSource source).stop])).Nodup := by
  have hbehind (text : List Char) : default ≠ Position.behind text := by
    intro heq
    have hline : 0 = 1 + text.count '\n' := congrArg Position.line heq
    omega
  refine List.nodup_cons.2 ⟨fun hmem => ?_, nodup_places source⟩
  rcases List.mem_append.1 hmem with htoken | hstop
  · obtain ⟨token, htoken, hposition⟩ := List.mem_map.1 htoken
    obtain ⟨front, -, -, hfront, -⟩ := exists_around htoken
    exact hbehind front (hposition.symm.trans hfront)
  · exact hbehind _ ((List.mem_singleton.1 hstop).trans (stop_ofSource source))

theorem exists_move {source rewritten : String}
    (h : (ofSource rewritten).tokens.map Token.kind = (ofSource source).tokens.map Token.kind) :
    ∃ f : Position → Position, Function.Injective f ∧ f default = default ∧
      ofSource rewritten = (ofSource source).move f := by
  have hlength := congrArg List.length h
  rw [List.length_map, List.length_map] at hlength
  obtain ⟨e, he⟩ := exists_perm_map_eq (nodup_default_places source)
    (nodup_default_places rewritten) (by simp [hlength])
  rw [List.map_cons, List.map_append, List.map_map] at he
  obtain ⟨hdefault, hplaces⟩ := List.cons.inj he
  obtain ⟨hpositions, hstop⟩ := List.append_inj hplaces (by simp [hlength])
  refine ⟨e, e.injective, hdefault, ?_⟩
  have htokens := Token.eq_map_move h hpositions
  have hend : (ofSource rewritten).stop = e (ofSource source).stop := by simpa using hstop.symm
  rw [TokenStream.move, ← htokens, ← hend]

end TokenStream

namespace Definition

theorem ofSource_of_move {source rewritten : String} {f : Position → Position}
    (hinj : Function.Injective f) (hdefault : f default = default)
    (hmove : TokenStream.ofSource rewritten = (TokenStream.ofSource source).move f) :
    ofSource rewritten = { ofSource source with
      diagnostics := (ofSource source).diagnostics.map (Diagnostic.move f) } := by
  rw [ofSource, ofSource, read, read, hmove, Draft.ofTokens_move hinj hdefault,
    Outline.ofTokens_move, Outline.requested_move, Names.lookupTokens, Names.lookupTokens,
    Token.filterMap_name?_move]
  rfl

/-- Layout does not matter. Whatever separates the tokens of a text when they are written again,
the new text has the same tokens with the same handles of names. It describes the same network and
recorder, with the same diagnostics at the new places; only its last token can be an open comment.
-/
theorem spacing_is_insignificant {source rewritten : String}
    (h : Spaced ((TokenStream.ofSource source).tokens.map Token.kind) rewritten.toList) :
    let stream := TokenStream.ofSource source
    let spaced := TokenStream.ofSource rewritten
    (∀ kind ∈ (stream.tokens.map Token.kind).dropLast, ∀ body, kind ≠ .openComment body) ∧
    spaced.tokens.map Token.kind = stream.tokens.map Token.kind ∧
    ({} : Names).lookupAll (spaced.tokens.filterMap Token.name?) =
      ({} : Names).lookupAll (stream.tokens.filterMap Token.name?) ∧
    ∃ f : Position → Position, Function.Injective f ∧ spaced = stream.move f ∧
      (ofSource rewritten).network = (ofSource source).network ∧
      (ofSource rewritten).recorder = (ofSource source).recorder ∧
      (ofSource rewritten).names = (ofSource source).names ∧
      (ofSource rewritten).diagnostics =
        (ofSource source).diagnostics.map (Diagnostic.move f) := by
  intro stream spaced
  have hkinds := TokenStream.kinds_of_spaced h
  obtain ⟨f, hinj, hdefault, hmove⟩ := TokenStream.exists_move hkinds
  have hnames : spaced.tokens.filterMap Token.name? = stream.tokens.filterMap Token.name? := by
    have htokens := congrArg TokenStream.tokens hmove
    exact (congrArg _ htokens).trans (Token.filterMap_name?_move _)
  have hdefinition := ofSource_of_move hinj hdefault hmove
  refine ⟨fun kind => TokenStream.ne_openComment_of_mem_dropLast, hkinds, by rw [hnames], f, hinj,
    hmove, ?_⟩
  rw [hdefinition]
  exact ⟨rfl, rfl, rfl, rfl⟩

/-- Marks that could open or close a comment stand next to comments here. -/
theorem spacing_is_insignificant_slash :
    let source := "DEVICES S:SWITCH 1;END/ */*"
    let gap := ['/', '*', '/', '*', '/', '#', '*', '/', '\n']
    let kinds := (TokenStream.ofSource source).tokens.map Token.kind
    let rewritten := String.ofList (gap.intercalate (kinds.map TokenKind.spelling))
    Spaced kinds rewritten.toList ∧ (ofSource source).diagnostics.length = 1 ∧
    (ofSource rewritten).diagnostics.length = 1 ∧
    (ofSource rewritten).network = (ofSource source).network := by
  intro source gap kinds rewritten
  have hblock : Separator ['/', '*', '/', '*', '/'] :=
    .blockComment (show ¬ Closes (['/'] ++ ['*']) by decide)
  have hline : Separator ['#', '*', '/', '\n'] := .lineComment (show '\n' ∉ ['*', '/'] by decide)
  have hlayout : Layout gap := .cons hblock (.cons hline .nil)
  have hspaced : Spaced kinds rewritten.toList := by
    rw [String.toList_ofList]
    exact spaced_intercalate hlayout (by decide) kinds
  have hone : (ofSource source).diagnostics.length = 1 := by
    unfold source
    decide +kernel
  obtain ⟨-, -, -, f, -, -, hnetwork, -, -, hdiagnostics⟩ := spacing_is_insignificant hspaced
  refine ⟨hspaced, hone, ?_, hnetwork⟩
  rw [hdiagnostics, List.length_map, hone]

end Definition

end LogicBench
