import HostRouting.Proofs.DeclaredSteps
import HostRouting.Proofs.RegistryRuns
import Mathlib.Data.List.Induction
import Mathlib.Data.List.TakeWhile

/-!
# Handlers that share one socket

A call reports each handler that shares one socket with its candidate and stands before the handler
with both.  Over a run, the sockets that are reported are exactly those that two registered handlers
share without sharing the other one.  Such a pair is reported when the later of the two is
registered.  Conversely, what is reported about a candidate that is dropped is true of the
registered handler with its sockets as well.
-/

namespace HostRouting.Registry

/-! ## Two handlers -/

/-- What is to be reported about two handlers: the socket that they share, if it is only one. -/
def sharedSocket? (candidate handler : Handler) : Option Event :=
  if handler.sendSpec = candidate.sendSpec ∧ handler.recvSpec ≠ candidate.recvSpec then
    some (.sharedSend candidate.sendSpec)
  else if handler.sendSpec ≠ candidate.sendSpec ∧ handler.recvSpec = candidate.recvSpec then
    some (.sharedRecv candidate.recvSpec)
  else none

theorem sharedSocket?_comm (left right : Handler) :
    sharedSocket? left right = sharedSocket? right left := by
  grind [sharedSocket?]

/-- What is to be reported depends on the sockets of the handlers only. -/
theorem sharedSocket?_congr {candidate other : Handler}
    (hsame : other.identity = candidate.identity) (handler : Handler) :
    sharedSocket? other handler = sharedSocket? candidate handler := by
  obtain ⟨hsend, hrecv⟩ := Prod.mk.inj hsame
  rw [sharedSocket?, sharedSocket?, hsend, hrecv]

/-- A handler that is not that of the candidate is reported if they share a socket. -/
theorem collision_eq {candidate handler : Handler}
    (hother : handler.identity ≠ candidate.identity) :
    collision candidate handler = (sharedSocket? candidate handler).toList := by
  have hnot : ¬ (handler.sendSpec = candidate.sendSpec ∧ handler.recvSpec = candidate.recvSpec) :=
    fun hboth => hother (Prod.ext hboth.1 hboth.2)
  rw [collision, sharedSocket?]
  by_cases hsend : handler.sendSpec = candidate.sendSpec
  · have hrecv : handler.recvSpec ≠ candidate.recvSpec := fun hrecv => hnot ⟨hsend, hrecv⟩
    simp [Handler.sameSend, hsend, hrecv]
  · by_cases hrecv : handler.recvSpec = candidate.recvSpec
    · simp [Handler.sameSend, Handler.sameRecv, hsend, hrecv]
    · simp [Handler.sameSend, Handler.sameRecv, hsend, hrecv]

/-! ## One call -/

/-- The handlers before the one with the pair of a candidate, or all if no handler has it. -/
theorem takeWhile_eq_take (registry : Registry) (candidate : Handler) :
    registry.handlers.takeWhile (fun handler => handler.identity ≠ candidate.identity) =
      registry.handlers.take ((registry.find? candidate.identity).getD registry.size) := by
  have hsame : (fun handler : Handler => !decide (handler.identity ≠ candidate.identity)) =
      fun handler => handler.identity == candidate.identity := by
    funext handler
    rw [Bool.eq_iff_iff]
    simp only [Bool.not_eq_true', decide_eq_false_iff_not, not_not, beq_iff_eq]
  rw [List.takeWhile_eq_take_findIdx_not, hsame, List.findIdx_eq_getD_findIdx?]
  rfl

theorem identity_ne_of_mem_takeWhile {candidate handler : Handler} {handlers : List Handler}
    (hmem : handler ∈ handlers.takeWhile fun handler => handler.identity ≠ candidate.identity) :
    handler.identity ≠ candidate.identity := by
  simpa using List.mem_takeWhile_imp hmem

theorem clashes_eq (registry : Registry) (candidate : Handler) :
    registry.clashes candidate =
      (registry.handlers.take ((registry.find? candidate.identity).getD registry.size)).filterMap
        (sharedSocket? candidate) := by
  rw [← takeWhile_eq_take, clashes, List.filterMap_eq_flatMap_toList]
  apply List.flatMap_congr
  intro handler hmem
  exact collision_eq (identity_ne_of_mem_takeWhile hmem)

theorem events_register (candidate : Handler) (registry : Registry) :
    ((register candidate).run registry).events = registry.clashes candidate := by
  obtain ⟨handler, position, hrun, -⟩ := register_run candidate registry
  rw [hrun, scan_events, clashes]

theorem mem_clashes_iff {registry : Registry} {candidate : Handler} {event : Event} :
    event ∈ registry.clashes candidate ↔
      ∃ handler ∈ registry.handlers.takeWhile fun handler =>
        handler.identity ≠ candidate.identity, sharedSocket? candidate handler = some event := by
  rw [clashes_eq, ← takeWhile_eq_take, List.mem_filterMap]

/-- A registry has two handlers that share the socket which an event reports, and only this one. -/
def Clashing (registry : Registry) (event : Event) : Prop :=
  ∃ (left right : Nat) (first second : Handler), left ≠ right ∧
    registry.handlers[left]? = some first ∧ registry.handlers[right]? = some second ∧
    sharedSocket? first second = some event

theorem Clashing.extend {registry : Registry} {event : Event} (hclashing : registry.Clashing event)
    (more : List Handler) : (registry.extend more).Clashing event := by
  obtain ⟨left, right, first, second, hne, hleft, hright, hshared⟩ := hclashing
  exact ⟨left, right, first, second, hne, getElem?_extend hleft more, getElem?_extend hright more,
    hshared⟩

/-- What is reported about a candidate is true of the handler that is registered for it, whether
this is the candidate itself or the one that it is dropped for. -/
theorem clashing_of_mem_clashes {registry : Registry} {candidate : Handler} {event : Event}
    (hmem : event ∈ registry.clashes candidate) :
    (registry.extend [candidate]).Clashing event := by
  obtain ⟨handler, hbefore, hshared⟩ := mem_clashes_iff.mp hmem
  have hother := identity_ne_of_mem_takeWhile hbefore
  obtain ⟨left, hleft⟩ := List.mem_iff_getElem?.mp ((List.takeWhile_sublist _).subset hbefore)
  obtain ⟨own, right, -, hright, hidentity⟩ := register_run candidate registry
  have hkept := getElem?_extend hleft [candidate]
  refine ⟨right, left, own, handler, ?_, hright, hkept, ?_⟩
  · rintro rfl
    obtain rfl := Option.some.inj (hright.symm.trans hkept)
    exact hother hidentity
  · rw [sharedSocket?_congr hidentity]
    exact hshared

/-- A new candidate is reported with each registered handler that it shares one socket with. -/
theorem mem_clashes_of_new {registry : Registry} {candidate handler : Handler} {position : Nat}
    {event : Event} (hnew : candidate.identity ∉ registry.identities)
    (hheld : registry.handlers[position]? = some handler)
    (hshared : sharedSocket? candidate handler = some event) :
    event ∈ registry.clashes candidate := by
  have hall : registry.handlers.takeWhile
      (fun handler => handler.identity ≠ candidate.identity) = registry.handlers := by
    rw [List.takeWhile_eq_self_iff]
    intro other hmem
    apply decide_eq_true
    intro hsame
    exact hnew (hsame ▸ List.mem_map_of_mem hmem)
  rw [mem_clashes_iff, hall]
  exact ⟨handler, List.mem_of_getElem? hheld, hshared⟩

/-- A member of a list with one more stands in the list itself or at its end. -/
theorem getElem?_concat_eq_some {handlers : List Handler} {candidate handler : Handler}
    {position : Nat} (hheld : (handlers ++ [candidate])[position]? = some handler) :
    handlers[position]? = some handler ∨ position = handlers.length ∧ handler = candidate := by
  rcases Nat.lt_or_ge position handlers.length with hlt | hge
  · rw [List.getElem?_append_left hlt] at hheld
    exact Or.inl hheld
  · rw [List.getElem?_append_right hge, List.getElem?_singleton] at hheld
    split at hheld
    · exact Or.inr ⟨by omega, (Option.some.inj hheld).symm⟩
    · cases hheld

/-- One more candidate adds to the clashes of a registry what is reported about it, and nothing
else. -/
theorem clashing_extend_iff {registry : Registry} {candidate : Handler} {event : Event} :
    (registry.extend [candidate]).Clashing event ↔
      registry.Clashing event ∨ event ∈ registry.clashes candidate := by
  constructor
  · intro hclashing
    by_cases hknown : candidate.identity ∈ registry.identities
    · have hsame : registry.extend [candidate] = registry := by
        simp [extend, newcomers, hknown]
      rw [hsame] at hclashing
      exact Or.inl hclashing
    · obtain ⟨left, right, first, second, hne, hleft, hright, hshared⟩ := hclashing
      have hadded : (registry.extend [candidate]).handlers = registry.handlers ++ [candidate] := by
        simp [extend, newcomers, hknown]
      rw [hadded] at hleft hright
      -- Of two different positions, at most one is that of the candidate.
      rcases getElem?_concat_eq_some hleft with hfirst | ⟨rfl, rfl⟩
      · rcases getElem?_concat_eq_some hright with hsecond | ⟨rfl, rfl⟩
        · exact Or.inl ⟨left, right, first, second, hne, hfirst, hsecond, hshared⟩
        · rw [sharedSocket?_comm] at hshared
          exact Or.inr (mem_clashes_of_new hknown hfirst hshared)
      · rcases getElem?_concat_eq_some hright with hsecond | ⟨rfl, rfl⟩
        · exact Or.inr (mem_clashes_of_new hknown hsecond hshared)
        · exact absurd rfl hne
  · rintro (hclashing | hmem)
    · exact hclashing.extend [candidate]
    · exact clashing_of_mem_clashes hmem

/-! ## Runs -/

/-- One more call takes in its candidate, and reports the clashes of the candidate behind what was
reported before. -/
theorem ofCalls_concat (candidates : List Handler) (candidate : Handler) :
    (ofCalls (candidates ++ [candidate])).state = (ofCalls candidates).state.extend [candidate] ∧
      (ofCalls (candidates ++ [candidate])).events =
        (ofCalls candidates).events ++ (ofCalls candidates).state.clashes candidate := by
  obtain ⟨answers, events, hrun, -⟩ := mapM_register_run candidates {}
  obtain ⟨handler, position, hcall, -⟩ := register_run candidate (({} : Registry).extend candidates)
  have hall : (ofCalls (candidates ++ [candidate])) =
      ⟨.ok (answers ++ [(handler, position)]),
        (({} : Registry).extend candidates).extend [candidate],
        events ++ (scan candidate (({} : Registry).extend candidates).handlers).1⟩ := by
    rw [ofCalls, List.mapM_append, Audited.run_bind_of_ok hrun, List.mapM_cons, List.mapM_nil,
      bind_assoc, Audited.run_bind_of_ok hcall]
    simp
  rw [hall, ofCalls, hrun, clashes, scan_events]
  exact ⟨rfl, rfl⟩

theorem mem_events_ofCalls_iff {candidates : List Handler} {event : Event} :
    event ∈ (ofCalls candidates).events ↔ (ofCalls candidates).state.Clashing event := by
  induction candidates using List.reverseRecOn with
  | nil =>
      constructor
      · rintro ⟨⟩
      · rintro ⟨left, right, first, second, -, hleft, -⟩
        cases hleft
  | append_singleton candidates candidate ih =>
      obtain ⟨hstate, hevents⟩ := ofCalls_concat candidates candidate
      rw [hstate, hevents, List.mem_append, ih, clashing_extend_iff]

/-- However candidates were registered, and whatever candidate comes next: its call reports one
thing for each handler that shares one socket with it and stands before the one with both, in the
order of the registry, and this is all that is reported in addition.  So what a run has reported are
exactly the sockets that two handlers of its registry share without sharing the other one. -/
theorem ofCalls_reports_clashes (candidates : List Handler) :
    let outcome := ofCalls candidates
    let registry := outcome.state
    (∀ candidate,
      ((register candidate).run registry).events =
        (registry.handlers.take ((registry.find? candidate.identity).getD registry.size)).filterMap
          (sharedSocket? candidate) ∧
      (ofCalls (candidates ++ [candidate])).events =
        outcome.events ++ ((register candidate).run registry).events) ∧
    (∀ event, event ∈ outcome.events ↔
      ∃ (left right : Nat) (first second : Handler), left ≠ right ∧
        registry.handlers[left]? = some first ∧ registry.handlers[right]? = some second ∧
        sharedSocket? first second = some event) := by
  intro outcome registry
  refine ⟨fun candidate => ?_, fun event => mem_events_ofCalls_iff⟩
  rw [events_register]
  exact ⟨clashes_eq registry candidate, (ofCalls_concat candidates candidate).2⟩

-- The third candidate is dropped for the second one, but only after it has met the first one.
example :
    (ofCalls [⟨"ipc://a", "", "ipc://c", "", .tnet, true⟩,
      ⟨"ipc://a", "", "ipc://b", "", .tnet, true⟩,
      ⟨"ipc://a", "", "ipc://b", "", .tnet, true⟩]).events =
        [.sharedSend "ipc://a", .sharedSend "ipc://a"] := by
  decide

end HostRouting.Registry
