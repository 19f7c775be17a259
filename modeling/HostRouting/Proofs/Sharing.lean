import HostRouting.Proofs.CompiledServer

/-!
# Which routes share a handler

In a compiled server the registry holds exactly the handlers that routes lead to, and two routes
lead to one handler exactly when their records name the same pair of sockets.  What counts here is
the position in the registry, not the value of the handler.
-/

namespace HostRouting

open Toml (Table Value)

def Declared.route? (server : Table) (position : Nat) (path : String) : Option Value :=
  (hosts server)[position]?.bind fun element => (routes element).lookup path

def Server.route? (server : Server) (position : Nat) (path : String) : Option Backend :=
  server.hosts[position]?.bind fun host => host.route? path

/-! ## Hosts and their elements -/

section Elements

variable {α β : Type} {relation : α → β → Prop} {left : List α} {right : List β}

theorem exists_left_of_getElem? (hall : List.Forall₂ relation left right) {position : Nat}
    {second : β} (hsecond : right[position]? = some second) :
    ∃ first, left[position]? = some first ∧ relation first second := by
  obtain ⟨hright, rfl⟩ := List.getElem?_eq_some_iff.mp hsecond
  have hleft : position < left.length := by
    rw [hall.length_eq]
    exact hright
  exact ⟨left[position], List.getElem?_eq_getElem hleft,
    (List.forall₂_iff_get.mp hall).2 position hleft hright⟩

theorem exists_right_of_mem (hall : List.Forall₂ relation left right) {first : α}
    (hfirst : first ∈ left) : ∃ second ∈ right, relation first second := by
  obtain ⟨position, hleft, rfl⟩ := List.mem_iff_getElem.mp hfirst
  have hright : position < right.length := by
    rw [← hall.length_eq]
    exact hleft
  exact ⟨right[position], List.getElem_mem hright,
    (List.forall₂_iff_get.mp hall).2 position hleft hright⟩

end Elements

namespace Declared

/-- A handler route comes from a handler record with the same sockets, and leads to the very handler
that the registry holds. -/
theorem HostIn.handler_route {registry : Registry} {element : Value} {host : Host}
    (hhost : HostIn registry element host) {path : String} {handler : Handler}
    {slot : Option Nat} (hroute : (path, .handler handler slot) ∈ host.routes) :
    ∃ table index, (Declared.routes element).lookup path = some (.table table) ∧
      text? table "type" = some "handler" ∧
      text? table "send_spec" = some handler.sendSpec ∧
      text? table "recv_spec" = some handler.recvSpec ∧
      slot = some index ∧ registry.handlers[index]? = some handler := by
  obtain ⟨value, candidate, hentry, hbackend, hshares⟩ := hhost.entry_of_route hroute
  cases hshares with
  | @handler candidate handler _ index hheld hidentity =>
      obtain ⟨table, rfl, htype, hhandler⟩ := backend?_eq_handler hbackend
      obtain ⟨hsend, hrecv, -⟩ := handler?_eq_some hhandler
      have hkeys : ((Declared.routes element).map Prod.fst).Nodup :=
        hhost.paths.nodup_iff.mp hhost.nodup
      obtain ⟨hsameSend, hsameRecv⟩ := Prod.mk.inj hidentity
      refine ⟨table, index, lookup_eq_some_of_mem hkeys hentry, htype, ?_, ?_, rfl, hheld⟩
      · rw [hsend, hsameSend]
      · rw [hrecv, hsameRecv]

/-- A handler record leads to the handler of its pair of sockets. -/
theorem HostIn.route_of_candidate {registry : Registry} {element : Value} {host : Host}
    (hhost : HostIn registry element host) {path : String} {value : Value}
    (hentry : (path, value) ∈ Declared.routes element) {candidate : Handler} {slot : Option Nat}
    (hbackend : backend? value = some (.handler candidate slot)) :
    ∃ handler index, (path, .handler handler (some index)) ∈ host.routes ∧
      registry.handlers[index]? = some handler ∧ handler.identity = candidate.identity := by
  obtain ⟨declared, backend, hdeclared, hroute, hshares⟩ := hhost.routes (path, value) hentry
  obtain rfl := Option.some.inj (hbackend.symm.trans hdeclared)
  cases hshares with
  | @handler candidate handler _ index hheld hidentity =>
      exact ⟨handler, index, hroute, hheld, hidentity⟩

theorem nodup_registry (handlers : List Handler) : (registry handlers).identities.Nodup :=
  nodup_identities_newcomers [] handlers

/-- A registry of declared handlers has as many of them as there are distinct pairs of sockets. -/
theorem size_registry (handlers : List Handler) :
    (registry handlers).size = (handlers.map Handler.identity).dedup.length :=
  length_newcomers_nil handlers

end Declared

namespace Server

theorem mem_routes_of_route? {server : Server} {position : Nat} {path : String}
    {backend : Backend} (hroute : server.route? position path = some backend) :
    ∃ host, server.hosts[position]? = some host ∧ (path, backend) ∈ host.routes := by
  obtain ⟨host, hhost, hbackend⟩ := Option.bind_eq_some_iff.mp hroute
  exact ⟨host, hhost, Host.mem_routes_of_route? hbackend⟩

/-- A handler route of a server comes from a handler record at its place in the document. -/
theorem handler_route_declared {server : Server} {table : Table}
    (hhosts : List.Forall₂ (Declared.HostIn server.registry) (Declared.hosts table) server.hosts)
    {position : Nat} {path : String} {handler : Handler} {slot : Option Nat}
    (hroute : server.route? position path = some (.handler handler slot)) :
    ∃ entries index, Declared.route? table position path = some (.table entries) ∧
      Declared.text? entries "type" = some "handler" ∧
      Declared.text? entries "send_spec" = some handler.sendSpec ∧
      Declared.text? entries "recv_spec" = some handler.recvSpec ∧
      slot = some index ∧ server.registry.handlers[index]? = some handler := by
  obtain ⟨host, hhost, hmem⟩ := mem_routes_of_route? hroute
  obtain ⟨element, helement, hdeclared⟩ := exists_left_of_getElem? hhosts hhost
  obtain ⟨entries, index, hlookup, hfacts⟩ := hdeclared.handler_route hmem
  refine ⟨entries, index, ?_, hfacts⟩
  rw [Declared.route?, helement, Option.bind_some, hlookup]

/-- The registry of a compiled server holds exactly the handlers that its routes lead to.  Two
routes lead to one handler exactly when their records name the same two sockets, so there are as
many handlers as distinct pairs. -/
theorem handlers_shared_by_sockets {root : Record} {name : String} {server : Server}
    (hcompile : ((compile root name).run ()).result = .ok server) :
    ∃ record, find root name = .ok record ∧
      (∀ host ∈ server.hosts, ∀ path handler slot, (path, .handler handler slot) ∈ host.routes →
        ∃ index, slot = some index ∧ server.registry.handlers[index]? = some handler) ∧
      (∀ index handler, server.registry.handlers[index]? = some handler →
        ∃ host ∈ server.hosts, ∃ path, (path, .handler handler (some index)) ∈ host.routes) ∧
      (∀ position path handler slot otherPosition otherPath other otherSlot,
        server.route? position path = some (.handler handler slot) →
        server.route? otherPosition otherPath = some (.handler other otherSlot) →
        ∃ entries otherEntries,
          Declared.route? record.table position path = some (.table entries) ∧
          Declared.route? record.table otherPosition otherPath = some (.table otherEntries) ∧
          Declared.text? entries "type" = some "handler" ∧
          Declared.text? otherEntries "type" = some "handler" ∧
          (slot = otherSlot ↔
            Declared.text? entries "send_spec" = Declared.text? otherEntries "send_spec" ∧
            Declared.text? entries "recv_spec" = Declared.text? otherEntries "recv_spec")) ∧
      server.registry.size =
        ((Declared.handlers record.table).map Handler.identity).dedup.length := by
  obtain ⟨record, hfind, -, -, hhosts, hregistry, -, -⟩ := compile_built hcompile
  have hnodup : server.registry.identities.Nodup := by
    rw [hregistry]
    exact Declared.nodup_registry _
  refine ⟨record, hfind, ?_, ?_, ?_, ?_⟩
  · intro host hmem path handler slot hroute
    obtain ⟨position, hhost⟩ := List.mem_iff_getElem?.mp hmem
    obtain ⟨element, -, hdeclared⟩ := exists_left_of_getElem? hhosts hhost
    obtain ⟨-, index, -, -, -, -, hslot, hheld⟩ := hdeclared.handler_route hroute
    exact ⟨index, hslot, hheld⟩
  · intro index handler hheld
    -- A registered handler is a record of the document, and the route of that record leads to it.
    have hmem : handler ∈ Declared.handlers record.table := by
      rw [hregistry] at hheld
      exact (newcomers_sublist _ _).subset (List.mem_of_getElem? hheld)
    obtain ⟨element, helement, path, value, slot, hentry, hbackend⟩ :=
      Declared.mem_handlers_iff.mp hmem
    obtain ⟨host, hhost, hdeclared⟩ := exists_right_of_mem hhosts helement
    obtain ⟨shared, place, hroute, hshared, hidentity⟩ :=
      hdeclared.route_of_candidate hentry hbackend
    obtain rfl := Registry.position_unique hnodup hshared hheld hidentity
    obtain rfl := Option.some.inj (hshared.symm.trans hheld)
    exact ⟨host, hhost, path, hroute⟩
  · intro position path handler slot otherPosition otherPath other otherSlot hroute hother
    obtain ⟨entries, index, hentries, htype, hsend, hrecv, rfl, hheld⟩ :=
      handler_route_declared hhosts hroute
    obtain ⟨otherEntries, otherIndex, hotherEntries, hotherType, hotherSend, hotherRecv, rfl,
      hotherHeld⟩ := handler_route_declared hhosts hother
    refine ⟨entries, otherEntries, hentries, hotherEntries, htype, hotherType, ?_⟩
    rw [hsend, hotherSend, hrecv, hotherRecv, Option.some.injEq, Option.some.injEq,
      Option.some.injEq]
    constructor
    · rintro rfl
      obtain rfl := Option.some.inj (hheld.symm.trans hotherHeld)
      exact ⟨rfl, rfl⟩
    · rintro ⟨hsameSend, hsameRecv⟩
      exact Registry.position_unique hnodup hheld hotherHeld (Prod.ext hsameSend hsameRecv)
  · rw [hregistry]
    exact Declared.size_registry _

/-- The routes of two hosts whose records name the same sockets lead to one handler, although the
records name different senders; a third route shares one of the sockets only, and has its own. -/
theorem handlers_shared_by_sockets_sharing :
    ∃ server shared own slot other,
      ((compile (.root Declared.sharingDocument) "main").run ()).result = .ok server ∧
      server.route? 0 "/chat" = some (.handler shared slot) ∧
      server.route? 1 "/chat" = some (.handler shared slot) ∧
      server.route? 1 "/mail" = some (.handler own other) ∧ slot ≠ other ∧
      server.registry.handlers = [shared, own] ∧ server.registry.size = 2 := by
  obtain ⟨server, shared, own, slot, chatSlot, other, hcompile, hfirst, hsecond, hmail,
      hhandlers⟩ : ∃ server shared own slot chatSlot other,
      ((compile (.root Declared.sharingDocument) "main").run ()).result = .ok server ∧
      server.route? 0 "/chat" = some (.handler shared slot) ∧
      server.route? 1 "/chat" = some (.handler shared chatSlot) ∧
      server.route? 1 "/mail" = some (.handler own other) ∧
      server.registry.handlers = [shared, own] :=
    ⟨_, _, _, _, _, _, rfl, rfl, rfl, rfl, rfl⟩
  obtain ⟨record, hfind, -, -, hslots, hsize⟩ := handlers_shared_by_sockets hcompile
  cases hfind
  obtain ⟨_, _, hentries, hotherEntries, -, -, hchat⟩ := hslots _ _ _ _ _ _ _ _ hfirst hsecond
  cases hentries
  cases hotherEntries
  obtain ⟨_, _, hentries, hotherEntries, -, -, hapart⟩ := hslots _ _ _ _ _ _ _ _ hfirst hmail
  cases hentries
  cases hotherEntries
  obtain rfl : slot = chatSlot := hchat.mpr ⟨by decide, by decide⟩
  refine ⟨server, shared, own, slot, other, hcompile, hfirst, hsecond, hmail, ?_, hhandlers, ?_⟩
  · intro hsame
    exact absurd (hapart.mp hsame).2 (by decide)
  · rw [hsize]
    decide

end Server

end HostRouting
