import LogicBench.Proofs.Definition.Numbering
import LogicBench.Proofs.Definition.Reading

/-!
# Reading makes progress

Whatever the text, reading it step by step comes to an end: no loop makes another turn before a
token has been used up. Each token is asked for once, in order, and the end of the text at most
once.
-/

namespace LogicBench

namespace Reading

section

variable {stop : Position} {reading : Reading}

def after (stop : Position) (tokens : List Token) (steps : Nat) : Reading :=
  (step stop)^[steps] (start tokens)

theorem after_succ (stop : Position) (tokens : List Token) (steps : Nat) :
    after stop tokens (steps + 1) = (after stop tokens steps).step stop :=
  Function.iterate_succ_apply' _ _ _

theorem outline_start (stop : Position) (tokens : List Token) :
    (start tokens).outline stop = .ofTokens ⟨tokens, stop⟩ := by
  unfold start Outline.ofTokens
  cases tokens <;> simp [outline, outlineFrom, Cursor.start, Outline.prepend]

theorem outline_after (stop : Position) (tokens : List Token) (steps : Nat) :
    (after stop tokens steps).outline stop = .ofTokens ⟨tokens, stop⟩ := by
  induction steps with
  | zero => exact outline_start stop tokens
  | succ steps ih => rw [after_succ, outline_step, ih]

theorem requests_after (stop : Position) (tokens : List Token) {first second : Nat}
    (h : first ≤ second) :
    (after stop tokens first).cursor.Requests (after stop tokens second).cursor := by
  induction second, h using Nat.le_induction with
  | base => exact .refl
  | succ second _ ih =>
      rw [after_succ]
      exact ih.trans (requests_step stop _)

theorem hasRead_after (stop : Position) (tokens : List Token) (steps : Nat) :
    (after stop tokens steps).cursor.HasRead tokens :=
  (requests_after stop tokens (Nat.zero_le steps)).hasRead (Cursor.hasRead_start tokens)

theorem antitone_remaining_after (stop : Position) (tokens : List Token) :
    Antitone fun steps => (after stop tokens steps).remaining := by
  refine antitone_nat_of_succ_le fun steps => ?_
  rw [after_succ]
  exact remaining_step_le stop _

/-- As long as reading goes on, each step takes one of those that remain. -/
theorem add_remaining_le (stop : Position) (tokens : List Token) (steps : Nat)
    (h : (after stop tokens steps).stage ≠ .finished) :
    steps + (after stop tokens steps).remaining ≤ (start tokens).remaining := by
  induction steps with
  | zero => exact Nat.le_of_eq (Nat.zero_add _)
  | succ steps ih =>
      have hbefore : (after stop tokens steps).stage ≠ .finished := by
        intro hfinished
        rw [after_succ, step_of_finished stop hfinished] at h
        exact h hfinished
      have hlt := (turnsInto_step stop hbefore).remaining_lt
      rw [← after_succ] at hlt
      have := ih hbefore
      omega

theorem remaining_pos (h : reading.stage ≠ .finished) : 1 ≤ reading.remaining := by
  obtain ⟨loop, hloop⟩ := Stage.ne_finished_iff.1 h
  have := rank_pos hloop reading.cursor.ahead
  rw [remaining_eq hloop]
  omega

theorem remaining_start_le (tokens : List Token) :
    (start tokens).remaining ≤ 5 * tokens.length + 3 := by
  cases tokens with
  | nil => exact Nat.zero_le _
  | cons token rest =>
      have hrank : (if Outline.atBoundary (token :: rest) then 1 else 3) ≤ 3 := by
        cases Outline.atBoundary (token :: rest) <;> decide
      exact Nat.add_le_add_left hrank _

theorem finished_after (stop : Position) (tokens : List Token) :
    (after stop tokens (5 * tokens.length + 3)).stage = .finished := by
  by_contra h
  have hsteps := add_remaining_le stop tokens _ h
  have hpos := remaining_pos h
  have hstart := remaining_start_le tokens
  omega

theorem outline_of_finished (stop : Position) (h : reading.stage = .finished) :
    reading.outline stop = ⟨reading.entries, reading.cursor.ahead.tail⟩ := by
  rw [outline, h]
  simp [outlineFrom, Outline.prepend]

end

theorem rank_eq_of_loop? {stage other : Stage} (h : stage.loop? = other.loop?)
    (tokens : List Token) : rank tokens stage = rank tokens other := by
  cases stage <;> cases other <;> first | rfl | cases h

/-- From one turn of a loop to a later one at least one token is used up. -/
theorem length_ahead_lt (stop : Position) (tokens : List Token) {first second : Nat} {loop : Loop}
    (hlt : first < second) (hfirst : (after stop tokens first).stage.loop? = some loop)
    (hsecond : (after stop tokens second).stage.loop? = some loop) :
    (after stop tokens second).cursor.ahead.length <
      (after stop tokens first).cursor.ahead.length := by
  by_contra hnot
  -- Without a token used up both turns would start alike, but fewer steps remain for the second.
  have hahead : (after stop tokens second).cursor.ahead = (after stop tokens first).cursor.ahead :=
    (requests_after stop tokens hlt.le).ahead_isSuffix.eq_of_length_le (Nat.le_of_not_lt hnot)
  have hremaining : (after stop tokens second).remaining = (after stop tokens first).remaining := by
    rw [remaining_eq hfirst, remaining_eq hsecond, hahead,
      rank_eq_of_loop? (hsecond.trans hfirst.symm)]
  have hstep := (turnsInto_step stop (Stage.ne_finished_iff.2 ⟨loop, hfirst⟩)).remaining_lt
  have hlater := antitone_remaining_after stop tokens (Nat.succ_le_of_lt hlt)
  simp only [after_succ] at hlater
  omega

end Reading

namespace Definition

/-- Reading comes to its end within a number of steps bounded by the number of tokens, and what it
has found then is the outline of the text. Each request is answered by the next token, and none is
made once the end of the text is in hand. From one turn of a loop to a later one at least one token
is used up. However far reading has come, there is a place of declaration for each device, and a
new device gets the number of the next place; no look-up of a place in the checks of the whole
network fails. -/
theorem reading_makes_progress (source : String) :
    let stream : TokenStream := .ofSource source
    let reading := Reading.after stream.stop stream.tokens
    let final := reading (5 * stream.tokens.length + 3)
    (final.stage = .finished ∧
      Outline.ofTokens stream = ⟨final.entries, final.cursor.ahead.tail⟩ ∧
      (ofSource source).names = ({} : Names).lookupTokens final.cursor.answered) ∧
    (∀ steps,
      (reading steps).cursor.answers <+: stream.tokens.map some ++ [none] ∧
      (reading steps).cursor.answers.getLast? = some (reading steps).cursor.ahead.head?) ∧
    (∀ first second loop, first < second → (reading first).stage.loop? = some loop →
      (reading second).stage.loop? = some loop →
      (reading second).cursor.ahead.length < (reading first).cursor.ahead.length) ∧
    (∀ steps,
      let draft := Draft.ofEntries (reading steps).entries
      draft.Numbered ∧
      ∀ name kind network id, draft.network.addDevice name kind = .ok (network, id) →
        id = draft.declaredAt.length) ∧
    (stream.tokens ≠ [] →
      (Draft.ofEntries final.entries).checks?.map Draft.close = some (Draft.ofTokens stream)) ∧
    (Draft.ofTokens stream).Numbered := by
  intro stream reading final
  have hfinished : final.stage = .finished := Reading.finished_after stream.stop stream.tokens
  have houtline : Outline.ofTokens stream = ⟨final.entries, final.cursor.ahead.tail⟩ :=
    (Reading.outline_after stream.stop stream.tokens _).symm.trans
      (Reading.outline_of_finished stream.stop hfinished)
  have hread (steps : Nat) : (reading steps).cursor.HasRead stream.tokens :=
    Reading.hasRead_after stream.stop stream.tokens steps
  refine ⟨⟨hfinished, houtline, ?_⟩, fun steps => ⟨?_, ?_⟩, ?_, fun steps => ?_,
    fun htokens => ?_, ?_⟩
  · have hnames : (ofSource source).names =
        ({} : Names).lookupTokens ((Outline.ofTokens stream).requested stream) := rfl
    rw [hnames, houtline, (hread _).answered_eq]
    rfl
  · exact (hread steps).answers_isPrefix
  · exact (hread steps).getLast?_answers
  · intro first second loop hlt hfirst hsecond
    exact Reading.length_ahead_lt stream.stop stream.tokens hlt hfirst hsecond
  · have hnumbered := Draft.numbered_ofEntries (reading steps).entries
    exact ⟨hnumbered, fun name kind network id hadd => hnumbered.id_of_addDevice hadd⟩
  · have hempty : stream.tokens.isEmpty = false := by simpa using htokens
    have hentries : final.entries = (Outline.ofTokens stream).entries := by rw [houtline]
    rw [hentries, Draft.checks?_ofEntries, Draft.ofTokens, hempty]
    rfl
  · exact Draft.numbered_ofTokens stream

/-- A name is left over behind an item, a character cannot start a token, a list is missing behind
a keyword, and a comment is never closed. -/
theorem reading_makes_progress_stray :
    let stream : TokenStream := .ofSource "DEVICES a:SWITCH 1 b, $ CONNECT MONITOR; END /*"
    let reading := Reading.after stream.stop stream.tokens
    let final := reading (5 * stream.tokens.length + 3)
    let draft := Draft.ofEntries (reading 2).entries
    ((reading 2).stage.loop? = some .separators ∧
      (reading 5).stage.loop? = some .separators ∧
      (reading 5).cursor.ahead.length < (reading 2).cursor.ahead.length) ∧
    (∃ network id, draft.network.addDevice "b" .xor = .ok (network, id) ∧
      id = draft.declaredAt.length) ∧
    stream.tokens ≠ [] ∧
      (Draft.ofEntries final.entries).checks?.map Draft.close = some (Draft.ofTokens stream) := by
  intro stream reading final draft
  obtain ⟨-, -, hloops, hdrafts, hchecks, -⟩ :=
    reading_makes_progress "DEVICES a:SWITCH 1 b, $ CONNECT MONITOR; END /*"
  have hfirst : (reading 2).stage.loop? = some .separators := by
    unfold reading stream
    decide +kernel
  have hsecond : (reading 5).stage.loop? = some .separators := by
    unfold reading stream
    decide +kernel
  have hfree : draft.network.deviceId? "b" = none := by
    unfold draft reading stream
    decide +kernel
  have hadd : draft.network.addDevice "b" .xor =
      .ok ({ draft.network with devices := draft.network.devices ++ [Device.ofKind "b" .xor] },
        draft.network.devices.length) :=
    Network.addDevice_eq_ok_iff.2 ⟨hfree, rfl, rfl⟩
  have htokens : stream.tokens ≠ [] := by
    unfold stream
    decide +kernel
  exact ⟨⟨hfirst, hsecond, hloops 2 5 _ (by decide) hfirst hsecond⟩,
    ⟨_, _, hadd, (hdrafts 2).2 _ _ _ _ hadd⟩, htokens, hchecks htokens⟩

end Definition

end LogicBench
