import HostRouting.Proofs.Actions
import HostRouting.Registry
import Mathlib.Data.List.Dedup

/-!
# How a registry grows

Registering a row of candidates adds, behind what is there, each candidate whose pair of sockets
occurs neither in the registry nor earlier in the row.  What was registered stays where it was, so
a position keeps standing for the same handler, and no pair ever occurs twice.
-/

namespace HostRouting

/-- The handlers whose pair of sockets is neither known nor that of an earlier handler. -/
def newcomers (known : List (String × String)) : List Handler → List Handler
  | [] => []
  | handler :: rest =>
      if handler.identity ∈ known then newcomers known rest
      else handler :: newcomers (handler.identity :: known) rest

/-- Which pairs are known matters, but not in what order or how often they are listed. -/
theorem newcomers_congr {left right : List (String × String)}
    (hsame : ∀ identity, identity ∈ left ↔ identity ∈ right) (handlers : List Handler) :
    newcomers left handlers = newcomers right handlers := by
  induction handlers generalizing left right with
  | nil => rfl
  | cons handler rest ih =>
      have hcons : ∀ identity,
          identity ∈ handler.identity :: left ↔ identity ∈ handler.identity :: right := by
        intro identity
        simp only [List.mem_cons, hsame]
      simp only [newcomers, hsame, ih hsame, ih hcons]

theorem newcomers_sublist (known : List (String × String)) (handlers : List Handler) :
    (newcomers known handlers).Sublist handlers := by
  induction handlers generalizing known with
  | nil => exact List.Sublist.refl _
  | cons handler rest ih =>
      rw [newcomers]
      split
      · exact (ih known).cons handler
      · exact (ih _).cons_cons handler

theorem newcomers_append (known : List (String × String)) (left right : List Handler) :
    newcomers known (left ++ right) =
      newcomers known left ++ newcomers (left.map Handler.identity ++ known) right := by
  induction left generalizing known with
  | nil => rfl
  | cons handler rest ih =>
      simp only [List.cons_append, newcomers, List.map_cons]
      by_cases hknown : handler.identity ∈ known
      · rw [if_pos hknown, if_pos hknown, ih]
        congr 1
        apply newcomers_congr
        intro identity
        simp only [List.mem_cons, List.mem_append]
        constructor
        · exact Or.inr
        · rintro (rfl | hmem)
          · exact Or.inr hknown
          · exact hmem
      · rw [if_neg hknown, if_neg hknown, ih, List.cons_append]
        congr 2
        apply newcomers_congr
        intro identity
        simp only [List.mem_cons, List.mem_append]
        tauto

/-- A pair stands among the newcomers when it is listed and was not known. -/
theorem mem_identities_newcomers_iff (known : List (String × String)) (handlers : List Handler)
    (identity : String × String) :
    identity ∈ (newcomers known handlers).map Handler.identity ↔
      identity ∈ handlers.map Handler.identity ∧ identity ∉ known := by
  induction handlers generalizing known with
  | nil => simp [newcomers]
  | cons handler rest ih =>
      by_cases hknown : handler.identity ∈ known
      · rw [newcomers, if_pos hknown, ih, List.map_cons, List.mem_cons]
        constructor
        · exact fun h => ⟨Or.inr h.1, h.2⟩
        · rintro ⟨rfl | hmem, hnew⟩
          · exact absurd hknown hnew
          · exact ⟨hmem, hnew⟩
      · rw [newcomers, if_neg hknown, List.map_cons, List.mem_cons, ih, List.map_cons,
          List.mem_cons, List.mem_cons]
        by_cases hfirst : identity = handler.identity
        · simp [hfirst, hknown]
        · simp [hfirst]

theorem nodup_identities_newcomers (known : List (String × String)) (handlers : List Handler) :
    ((newcomers known handlers).map Handler.identity).Nodup := by
  induction handlers generalizing known with
  | nil => exact List.nodup_nil
  | cons handler rest ih =>
      by_cases hknown : handler.identity ∈ known
      · rw [newcomers, if_pos hknown]
        exact ih known
      · rw [newcomers, if_neg hknown, List.map_cons, List.nodup_cons]
        refine ⟨?_, ih _⟩
        rw [mem_identities_newcomers_iff]
        simp

/-- There are as many first handlers as distinct pairs of sockets. -/
theorem length_newcomers_nil (handlers : List Handler) :
    (newcomers [] handlers).length = (handlers.map Handler.identity).dedup.length := by
  have hperm : ((newcomers [] handlers).map Handler.identity).Perm
      (handlers.map Handler.identity).dedup := by
    rw [List.perm_ext_iff_of_nodup (nodup_identities_newcomers [] handlers) (List.nodup_dedup _)]
    intro identity
    rw [List.mem_dedup, mem_identities_newcomers_iff]
    simp
  rw [← hperm.length_eq, List.length_map]

/-- The newcomer with a pair is the first handler with it. -/
theorem find?_newcomers {known : List (String × String)} {identity : String × String}
    (hnew : identity ∉ known) (handlers : List Handler) :
    (newcomers known handlers).find? (fun handler => handler.identity == identity) =
      handlers.find? (fun handler => handler.identity == identity) := by
  induction handlers generalizing known with
  | nil => rfl
  | cons handler rest ih =>
      by_cases hfirst : handler.identity = identity
      · have hknown : handler.identity ∉ known := hfirst ▸ hnew
        rw [newcomers, if_neg hknown]
        simp [hfirst]
      · rw [List.find?_cons_of_neg (by simpa using hfirst)]
        by_cases hknown : handler.identity ∈ known
        · rw [newcomers, if_pos hknown, ih hnew]
        · have hstill : identity ∉ handler.identity :: known := by
            simp [Ne.symm hfirst, hnew]
          rw [newcomers, if_neg hknown, List.find?_cons_of_neg (by simpa using hfirst), ih hstill]

namespace Registry

def identities (registry : Registry) : List (String × String) :=
  registry.handlers.map Handler.identity

def extend (registry : Registry) (candidates : List Handler) : Registry :=
  ⟨registry.handlers ++ newcomers registry.identities candidates⟩

@[simp]
theorem extend_nil (registry : Registry) : registry.extend [] = registry := by
  simp [extend, newcomers]

theorem mem_identities_extend_iff (registry : Registry) (candidates : List Handler)
    (identity : String × String) :
    identity ∈ (registry.extend candidates).identities ↔
      identity ∈ registry.identities ∨ identity ∈ candidates.map Handler.identity := by
  have hnew := mem_identities_newcomers_iff registry.identities candidates identity
  have hsplit : (registry.extend candidates).identities =
      registry.identities ++ (newcomers registry.identities candidates).map Handler.identity := by
    simp [extend, identities]
  rw [hsplit, List.mem_append, hnew]
  tauto

/-- Taking in two rows one after the other is taking in the joined row. -/
theorem extend_append (registry : Registry) (left right : List Handler) :
    registry.extend (left ++ right) = (registry.extend left).extend right := by
  have hknown : newcomers (left.map Handler.identity ++ registry.identities) right =
      newcomers (registry.extend left).identities right := by
    apply newcomers_congr
    intro identity
    rw [mem_identities_extend_iff, List.mem_append, or_comm]
  simp only [extend, newcomers_append, List.append_assoc] at hknown ⊢
  rw [hknown]

theorem nodup_identities_extend {registry : Registry} (hnodup : registry.identities.Nodup)
    (candidates : List Handler) : (registry.extend candidates).identities.Nodup := by
  have hsplit : (registry.extend candidates).identities =
      registry.identities ++ (newcomers registry.identities candidates).map Handler.identity := by
    simp [extend, identities]
  rw [hsplit]
  apply hnodup.append (nodup_identities_newcomers _ _)
  intro identity hknown hnew
  rw [mem_identities_newcomers_iff] at hnew
  exact hnew.2 hknown

/-- What a registry holds at a position, it holds there for good. -/
theorem getElem?_extend {registry : Registry} {position : Nat} {handler : Handler}
    (hheld : registry.handlers[position]? = some handler) (candidates : List Handler) :
    (registry.extend candidates).handlers[position]? = some handler := by
  have hlt : position < registry.handlers.length := by
    rw [List.getElem?_eq_some_iff] at hheld
    exact hheld.1
  rw [extend, List.getElem?_append_left hlt]
  exact hheld

/-- In a registry without repeated pairs, a pair determines its position. -/
theorem position_unique {registry : Registry} (hnodup : registry.identities.Nodup)
    {left right : Nat} {leftHandler rightHandler : Handler}
    (hleft : registry.handlers[left]? = some leftHandler)
    (hright : registry.handlers[right]? = some rightHandler)
    (hsame : leftHandler.identity = rightHandler.identity) : left = right := by
  have hleft' : registry.identities[left]? = some leftHandler.identity := by
    simp [identities, hleft]
  have hright' : registry.identities[right]? = some leftHandler.identity := by
    simp [identities, hright, hsame]
  obtain ⟨hlt, -⟩ := List.getElem?_eq_some_iff.mp hleft'
  exact (List.getElem?_inj hlt hnodup).mp (hleft'.trans hright'.symm)

/-- In a registry without repeated pairs, looking up the pair of a handler gives its position. -/
theorem find?_identity {registry : Registry} (hnodup : registry.identities.Nodup)
    {position : Nat} {handler : Handler} (hheld : registry.handlers[position]? = some handler) :
    registry.find? handler.identity = some position := by
  obtain ⟨hlt, hget⟩ := List.getElem?_eq_some_iff.mp hheld
  rw [find?, List.findIdx?_eq_some_iff_getElem]
  refine ⟨hlt, by simp [hget], ?_⟩
  intro earlier hearlier hsame
  have hother : registry.handlers[earlier]? = some registry.handlers[earlier] :=
    List.getElem?_eq_getElem (Nat.lt_trans hearlier hlt)
  have hposition := position_unique hnodup hother hheld (by simpa using hsame)
  exact absurd hposition (Nat.ne_of_lt hearlier)

theorem find?_handlers_identity {registry : Registry} (hnodup : registry.identities.Nodup)
    {position : Nat} {handler : Handler} (hheld : registry.handlers[position]? = some handler) :
    registry.handlers.find? (fun other => other.identity == handler.identity) = some handler := by
  have hposition := find?_identity hnodup hheld
  rw [find?] at hposition
  rw [List.find?_eq_bind_findIdx?_getElem?, hposition]
  exact hheld

/-! ## Registering one candidate -/

theorem sameSockets_iff (left right : Handler) :
    (left.sameSend right && left.sameRecv right) = true ↔ left.identity = right.identity := by
  simp [Handler.sameSend, Handler.sameRecv, Handler.identity]

/-- A scan finds nothing when the pair of the candidate is not there. -/
theorem scan_of_not_mem {candidate : Handler} {handlers : List Handler}
    (hnew : candidate.identity ∉ handlers.map Handler.identity) :
    (scan candidate handlers).2 = none := by
  induction handlers with
  | nil => rfl
  | cons handler rest ih =>
      rw [List.map_cons, List.mem_cons, not_or] at hnew
      have hdiffer : ¬ (handler.sameSend candidate && handler.sameRecv candidate) = true := by
        rw [sameSockets_iff]
        exact Ne.symm hnew.1
      simp [scan, hdiffer, ih hnew.2]

/-- A scan finds a handler with the pair of the candidate, if there is one, and its position. -/
theorem scan_of_mem {candidate : Handler} {handlers : List Handler}
    (hknown : candidate.identity ∈ handlers.map Handler.identity) :
    ∃ handler position, (scan candidate handlers).2 = some (handler, position) ∧
      handlers[position]? = some handler ∧ handler.identity = candidate.identity := by
  induction handlers with
  | nil => simp at hknown
  | cons handler rest ih =>
      by_cases hsame : handler.identity = candidate.identity
      · have hboth := (sameSockets_iff handler candidate).mpr hsame
        exact ⟨handler, 0, by simp [scan, hboth], rfl, hsame⟩
      · have hdiffer : ¬ (handler.sameSend candidate && handler.sameRecv candidate) = true := by
          rwa [sameSockets_iff]
        have hrest : candidate.identity ∈ rest.map Handler.identity := by
          rw [List.map_cons, List.mem_cons] at hknown
          exact hknown.resolve_left (Ne.symm hsame)
        obtain ⟨found, position, hscan, hheld, hidentity⟩ := ih hrest
        exact ⟨found, position + 1, by simp [scan, hdiffer, hscan], by simpa using hheld,
          hidentity⟩

/-- Registering a candidate takes it in, and answers with the handler of its pair and the position
of that handler. -/
theorem register_run (candidate : Handler) (registry : Registry) :
    ∃ handler position,
      (register candidate).run registry =
        ⟨.ok (handler, position), registry.extend [candidate],
          (scan candidate registry.handlers).1⟩ ∧
      (registry.extend [candidate]).handlers[position]? = some handler ∧
      handler.identity = candidate.identity := by
  by_cases hknown : candidate.identity ∈ registry.identities
  · obtain ⟨handler, position, hscan, hheld, hidentity⟩ := scan_of_mem hknown
    have hextend : registry.extend [candidate] = registry := by
      simp [extend, newcomers, hknown]
    refine ⟨handler, position, ?_, ?_, hidentity⟩
    · rw [hextend]
      simp only [Audited.run, register]
      rw [← Prod.eta (scan candidate registry.handlers), hscan]
    · rw [hextend]
      exact hheld
  · have hscan := scan_of_not_mem hknown
    have hextend : registry.extend [candidate] = ⟨registry.handlers ++ [candidate]⟩ := by
      simp [extend, newcomers, hknown]
    refine ⟨candidate, registry.handlers.length, ?_, ?_, rfl⟩
    · rw [hextend]
      simp only [Audited.run, register]
      rw [← Prod.eta (scan candidate registry.handlers), hscan]
    · simp [hextend]

end Registry

end HostRouting
