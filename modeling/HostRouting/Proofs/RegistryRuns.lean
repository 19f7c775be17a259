import HostRouting.Proofs.RegistryGrowth

/-!
# Runs of registrations

Candidates are registered one call after another.  What such a run leaves can be told from the row
of candidates alone: the registry holds the first candidate of each pair of sockets, at the place
that this pair has among all pairs in the order of their first calls.  Each call answers with the
handler at that place, and so does looking up the pair, from the first call with the pair on.

Scanning for a candidate and looking up its pair are written differently, but they find the same
entry in every registry, whether or not pairs are distinct there.
-/

namespace HostRouting.Registry

/-! ## The first candidate of a pair -/

/-- A candidate is the first one of a row with a pair of sockets: in which call it comes, and which
place its pair has among the distinct pairs of the row. -/
structure FirstOf (candidates : List Handler) (identity : String × String) (call place : Nat)
    (handler : Handler) : Prop where
  listed : candidates[call]? = some handler
  identity_eq : handler.identity = identity
  fresh : identity ∉ (candidates.take call).map Handler.identity
  place_eq : place = ((candidates.take call).map Handler.identity).dedup.length

/-- Each pair of a row has a first candidate. -/
theorem exists_firstOf {candidates : List Handler} {identity : String × String}
    (hmem : identity ∈ candidates.map Handler.identity) :
    ∃ call place handler, FirstOf candidates identity call place handler := by
  obtain ⟨earlier, later, hsplit, hfresh⟩ := List.eq_append_cons_of_mem hmem
  obtain ⟨before, others, rfl, rfl, hothers⟩ := List.map_eq_append_iff.mp hsplit
  obtain ⟨handler, after, rfl, hidentity, -⟩ := List.map_eq_cons_iff.mp hothers
  refine ⟨before.length, _, handler, ⟨?_, hidentity, ?_, rfl⟩⟩
  · simp
  · rw [List.take_left]
    exact hfresh

/-- The first candidate of a pair does not come after any other one with this pair. -/
theorem FirstOf.call_le {candidates : List Handler} {candidate handler : Handler}
    {call first place : Nat} (hfirst : FirstOf candidates candidate.identity first place handler)
    (hcandidate : candidates[call]? = some candidate) : first ≤ call := by
  by_contra hlater
  apply hfirst.fresh
  have hmem : candidate ∈ candidates.take first := by
    apply List.mem_of_getElem?
    rw [List.getElem?_take_of_lt (Nat.lt_of_not_le hlater)]
    exact hcandidate
  exact List.mem_map_of_mem hmem

/-- As soon as its call has come, the first candidate of a pair is that for good. -/
theorem FirstOf.take {candidates : List Handler} {identity : String × String}
    {call place : Nat} {handler : Handler}
    (hfirst : FirstOf candidates identity call place handler) {calls : Nat} (hcall : call < calls) :
    FirstOf (candidates.take calls) identity call place handler := by
  have htake : (candidates.take calls).take call = candidates.take call := by
    rw [List.take_take, Nat.min_eq_left (Nat.le_of_lt hcall)]
  refine ⟨?_, hfirst.identity_eq, ?_, ?_⟩
  · rw [List.getElem?_take_of_lt hcall]
    exact hfirst.listed
  · rw [htake]
    exact hfirst.fresh
  · rw [htake]
    exact hfirst.place_eq

/-- Among the first candidates of all pairs, one stands at the place of its pair. -/
theorem FirstOf.getElem?_newcomers {candidates : List Handler} {identity : String × String}
    {call place : Nat} {handler : Handler}
    (hfirst : FirstOf candidates identity call place handler) :
    (newcomers [] candidates)[place]? = some handler := by
  obtain ⟨hlt, hheld⟩ := List.getElem?_eq_some_iff.mp hfirst.listed
  have hsplit : candidates = candidates.take call ++ handler :: candidates.drop (call + 1) := by
    rw [← hheld, ← List.drop_eq_getElem_cons hlt, List.take_append_drop]
  have hfresh : handler.identity ∉ (candidates.take call).map Handler.identity ++ [] := by
    rw [List.append_nil, hfirst.identity_eq]
    exact hfirst.fresh
  rw [hsplit, newcomers_append, newcomers, if_neg hfresh, hfirst.place_eq,
    ← length_newcomers_nil, List.getElem?_append_right (Nat.le_refl _), Nat.sub_self]
  rfl

/-! ## Runs -/

/-- What comes of registering some candidates, one call after another, in an empty registry: the
answers of the calls, the registry that they leave, and what they report. -/
def ofCalls (candidates : List Handler) : Outcome Registry (List (Handler × Nat)) :=
  (candidates.mapM register).run {}

/-- A registry answers for a candidate with a handler of its pair and the position of this
handler. -/
structure Answers (registry : Registry) (candidate : Handler) (answer : Handler × Nat) : Prop where
  held : registry.handlers[answer.2]? = some answer.1
  identity_eq : answer.1.identity = candidate.identity

/-- A run takes in all candidates, and what a call answers is right for good. -/
theorem mapM_register_run (candidates : List Handler) (registry : Registry) :
    ∃ answers events,
      (candidates.mapM register).run registry =
        ⟨.ok answers, registry.extend candidates, events⟩ ∧
      List.Forall₂ (registry.extend candidates).Answers candidates answers := by
  induction candidates generalizing registry with
  | nil => exact ⟨[], [], by rw [extend_nil]; rfl, List.Forall₂.nil⟩
  | cons candidate rest ih =>
      obtain ⟨handler, position, hrun, hheld, hidentity⟩ := register_run candidate registry
      obtain ⟨answers, events, hrest, hanswers⟩ := ih (registry.extend [candidate])
      have hextend : (registry.extend [candidate]).extend rest =
          registry.extend (candidate :: rest) := (extend_append registry [candidate] rest).symm
      rw [hextend] at hrest hanswers
      have hfirst :
          (registry.extend (candidate :: rest)).Answers candidate (handler, position) := by
        rw [← hextend]
        exact ⟨getElem?_extend hheld rest, hidentity⟩
      have hall : ((candidate :: rest).mapM register).run registry =
          ⟨.ok ((handler, position) :: answers), registry.extend (candidate :: rest),
            (scan candidate registry.handlers).1 ++ events⟩ := by
        rw [List.mapM_cons, Audited.run_bind_of_ok hrun, Audited.run_bind_of_ok hrest]
        simp
      exact ⟨_, _, hall, List.Forall₂.cons hfirst hanswers⟩

theorem ofCalls_state (candidates : List Handler) :
    (ofCalls candidates).state = ⟨newcomers [] candidates⟩ := by
  obtain ⟨answers, events, hrun, -⟩ := mapM_register_run candidates {}
  rw [ofCalls, hrun]
  rfl

/-- A scan finds what looking up the pair of the candidate finds. -/
theorem scan_snd (candidate : Handler) (handlers : List Handler) :
    (scan candidate handlers).2 =
      (find? ⟨handlers⟩ candidate.identity).bind fun position =>
        handlers[position]?.map fun handler => (handler, position) := by
  simp only [find?]
  induction handlers with
  | nil => rfl
  | cons handler rest ih =>
      by_cases hsame : handler.identity = candidate.identity
      · have hboth := (sameSockets_iff handler candidate).mpr hsame
        simp [scan, hboth, List.findIdx?_cons, hsame]
      · have hdiffer : ¬ (handler.sameSend candidate && handler.sameRecv candidate) = true := by
          rwa [sameSockets_iff]
        rw [scan, if_neg hdiffer]
        simp only [ih, List.findIdx?_cons, beq_eq_false_iff_ne.mpr hsame, Bool.false_eq_true,
          if_false]
        cases rest.findIdx? fun other => other.identity == candidate.identity with
        | none => rfl
        | some position => simp [Function.comp_def]

/-- A pair that no handler has is not found. -/
theorem find?_eq_none {registry : Registry} {identity : String × String}
    (hfresh : identity ∉ registry.identities) : registry.find? identity = none := by
  rw [find?, List.findIdx?_eq_none_iff]
  intro handler hmem
  rw [beq_eq_false_iff_ne]
  rintro rfl
  exact hfresh (List.mem_map_of_mem hmem)

theorem nodup_identities_ofCalls (candidates : List Handler) :
    (ofCalls candidates).state.identities.Nodup := by
  rw [ofCalls_state]
  exact nodup_identities_newcomers [] candidates

theorem mem_identities_ofCalls_iff (candidates : List Handler) (identity : String × String) :
    identity ∈ (ofCalls candidates).state.identities ↔
      identity ∈ candidates.map Handler.identity := by
  rw [ofCalls_state, identities, mem_identities_newcomers_iff]
  simp

/-- After a run, the first candidate of a pair is held and found at the place of the pair. -/
theorem FirstOf.held_and_found {candidates : List Handler} {identity : String × String}
    {call place : Nat} {handler : Handler}
    (hfirst : FirstOf candidates identity call place handler) :
    (ofCalls candidates).state.handlers[place]? = some handler ∧
      (ofCalls candidates).state.find? identity = some place := by
  have hheld : (ofCalls candidates).state.handlers[place]? = some handler := by
    rw [ofCalls_state]
    exact hfirst.getElem?_newcomers
  have hfound := find?_identity (nodup_identities_ofCalls candidates) hheld
  rw [hfirst.identity_eq] at hfound
  exact ⟨hheld, hfound⟩

/-- The calls of a run have answered with the first candidates of their pairs. -/
theorem answers_ofCalls (candidates : List Handler) :
    ∃ answers, (ofCalls candidates).result = .ok answers ∧ answers.length = candidates.length ∧
      ∀ call candidate, candidates[call]? = some candidate →
        ∃ first place handler, FirstOf candidates candidate.identity first place handler ∧
          first ≤ call ∧ answers[call]? = some (handler, place) := by
  obtain ⟨answers, events, hrun, hanswers⟩ := mapM_register_run candidates {}
  have hstate : (ofCalls candidates).state = ({} : Registry).extend candidates :=
    congrArg Outcome.state hrun
  refine ⟨answers, congrArg Outcome.result hrun, hanswers.length_eq.symm, ?_⟩
  intro call candidate hcandidate
  obtain ⟨hcall, hlisted⟩ := List.getElem?_eq_some_iff.mp hcandidate
  have hanswered : call < answers.length := by
    rw [← hanswers.length_eq]
    exact hcall
  obtain ⟨first, place, handler, hfirst⟩ :=
    exists_firstOf (List.mem_map_of_mem (List.mem_of_getElem? hcandidate))
  refine ⟨first, place, handler, hfirst, hfirst.call_le hcandidate, ?_⟩
  -- The answer and the first candidate have the same pair, so they stand at one place.
  have hanswer : (ofCalls candidates).state.Answers candidate answers[call] := by
    rw [hstate, ← hlisted]
    exact (List.forall₂_iff_get.mp hanswers).2 call hcall hanswered
  have hheld := hfirst.held_and_found.1
  have hplace : answers[call].2 = place :=
    position_unique (nodup_identities_ofCalls candidates) hanswer.held hheld
      (hanswer.identity_eq.trans hfirst.identity_eq.symm)
  have hhandler : answers[call].1 = handler := by
    have hsame := hanswer.held
    rw [hplace, hheld] at hsame
    exact (Option.some.inj hsame).symm
  rw [List.getElem?_eq_getElem hanswered, ← hplace, ← hhandler]

/-- However candidates were registered: the registry holds the first one of each pair of sockets, in
the order of these, as it came.  Each call has answered with the first candidate of its pair and
with the place of this pair, and these stay what they are: from the first call with a pair on, the
registry holds this candidate at this place and finds it there, and before it finds nothing.  In any
registry, what a scan comes upon is what looking up the pair finds. -/
theorem ofCalls_keeps_firsts (candidates : List Handler) :
    let outcome := ofCalls candidates
    let after (calls : Nat) := (ofCalls (candidates.take calls)).state
    outcome.state.handlers = newcomers [] candidates ∧
    (∃ answers, outcome.result = .ok answers ∧ answers.length = candidates.length ∧
      ∀ call candidate, candidates[call]? = some candidate →
        ∃ first place handler, FirstOf candidates candidate.identity first place handler ∧
          first ≤ call ∧ answers[call]? = some (handler, place)) ∧
    (∀ identity first place handler, FirstOf candidates identity first place handler →
      ∀ calls, first < calls → (after calls).handlers[place]? = some handler ∧
        (after calls).find? identity = some place) ∧
    (∀ calls identity, identity ∉ (candidates.take calls).map Handler.identity →
      (after calls).find? identity = none) ∧
    (∀ (registry : Registry) candidate,
      (scan candidate registry.handlers).2 =
        (registry.find? candidate.identity).bind fun position =>
          registry.handlers[position]?.map fun handler => (handler, position)) := by
  intro outcome after
  refine ⟨congrArg handlers (ofCalls_state candidates), answers_ofCalls candidates, ?_, ?_, ?_⟩
  · intro identity first place handler hfirst calls hcalls
    exact (hfirst.take hcalls).held_and_found
  · intro calls identity hfresh
    apply find?_eq_none
    rw [mem_identities_ofCalls_iff]
    exact hfresh
  · intro registry candidate
    exact scan_snd candidate registry.handlers

/-- Calls of which the third has the pair of the second, behind one that shares a socket with it. -/
def chatCalls : List Handler :=
  [⟨"ipc://a", "first", "ipc://c", "", .tnet, true⟩,
    ⟨"ipc://a", "second", "ipc://b", "", .json, false⟩,
    ⟨"ipc://a", "third", "ipc://b", "", .tnet, true⟩]

theorem ofCalls_keeps_firsts_chat :
    (FirstOf chatCalls ("ipc://a", "ipc://b") 1 1
        ⟨"ipc://a", "second", "ipc://b", "", .json, false⟩ ∧ 1 < 2 ∧
      (ofCalls (chatCalls.take 2)).state.find? ("ipc://a", "ipc://b") = some 1) ∧
    (("ipc://a", "ipc://b") ∉ (chatCalls.take 1).map Handler.identity ∧
      (ofCalls (chatCalls.take 1)).state.find? ("ipc://a", "ipc://b") = none) ∧
    ∃ answers, (ofCalls chatCalls).result = .ok answers ∧ chatCalls[2]? = some
        ⟨"ipc://a", "third", "ipc://b", "", .tnet, true⟩ ∧
      ∃ first place handler, FirstOf chatCalls ("ipc://a", "ipc://b") first place handler ∧
        first ≤ 2 ∧ answers[2]? = some (handler, place) := by
  obtain ⟨-, ⟨answers, hanswers, -, hcalls⟩, hfirsts, hothers, -⟩ := ofCalls_keeps_firsts chatCalls
  have hsecond : FirstOf chatCalls ("ipc://a", "ipc://b") 1 1
      ⟨"ipc://a", "second", "ipc://b", "", .json, false⟩ :=
    ⟨by decide, by decide, by decide, by decide⟩
  refine ⟨⟨hsecond, by decide, (hfirsts _ _ _ _ hsecond 2 (by decide)).2⟩,
    ⟨by decide, hothers 1 _ (by decide)⟩, answers, hanswers, by decide, ?_⟩
  exact hcalls 2 _ rfl

end HostRouting.Registry
