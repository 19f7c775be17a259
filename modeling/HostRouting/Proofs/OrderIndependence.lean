import HostRouting.Proofs.FirstDefect
import HostRouting.Proofs.Reordered
import HostRouting.Proofs.RouteOrder
import HostRouting.Proofs.Sharing

/-!
# Order makes no difference

Compiling a record whose hosts and routes stand in another order succeeds just as well, with the
same pairs of sockets and the same default host.  What the order can decide is which of several
handler records with one pair of sockets stands for all of them; where such records agree, the
servers are equal by value up to the order of their hosts and handlers.
-/

namespace HostRouting

open Toml (Table Value)

/-! ## Values without references -/

/-- A backend by value: without the position of its handler in a registry. -/
def Backend.value : Backend → Backend
  | .handler held _ => .handler held none
  | backend => backend

def Host.value (host : Host) : Host :=
  { host with routes := host.routes.map fun route => (route.1, route.2.value) }

theorem Host.ordered_value {host : Host} (hordered : Host.Ordered host.routes) :
    Host.Ordered host.value.routes := by
  apply List.pairwise_map.mpr
  exact hordered

/-- Two hosts with ordered routes are equal by value if their names, their patterns and the members
of their tables are. -/
theorem Host.value_eq {left right : Host} (hname : left.name = right.name)
    (hmatching : left.matching = right.matching) (hleft : Host.Ordered left.routes)
    (hright : Host.Ordered right.routes)
    (hmem : ∀ route, route ∈ left.value.routes ↔ route ∈ right.value.routes) :
    left.value = right.value := by
  have hroutes : left.value.routes = right.value.routes :=
    Host.eq_of_ordered (Host.ordered_value hleft) (Host.ordered_value hright) hmem
  calc
    left.value = ⟨left.name, left.matching, left.value.routes⟩ := rfl
    _ = ⟨right.name, right.matching, right.value.routes⟩ := by rw [hname, hmatching, hroutes]
    _ = right.value := rfl

namespace Declared

/-! ## Handler records that agree -/

/-- Handler records with the same sockets have the same idents. -/
def IdentsAgree (handlers : List Handler) : Prop :=
  ∀ left ∈ handlers, ∀ right ∈ handlers, left.identity = right.identity →
    left.sendIdent = right.sendIdent ∧ left.recvIdent = right.recvIdent

theorem wiring_of_mem_handlers {server : Table} {handler : Handler}
    (hmem : handler ∈ handlers server) : handler.protocol = .tnet ∧ handler.raw = true := by
  obtain ⟨_, _, _, _, _, _, hbackend⟩ := mem_handlers_iff.mp hmem
  obtain ⟨_, -, -, hhandler⟩ := backend?_eq_handler hbackend
  exact (handler?_eq_some hhandler).2.2

/-- Where idents agree, the sockets of a handler record determine all of it. -/
theorem IdentsAgree.eq {server : Table} (hagree : IdentsAgree (handlers server))
    {left right : Handler} (hleft : left ∈ handlers server) (hright : right ∈ handlers server)
    (hidentity : left.identity = right.identity) : left = right := by
  obtain ⟨hsendIdent, hrecvIdent⟩ := hagree left hleft right hright hidentity
  obtain ⟨hsendSpec, hrecvSpec⟩ := Prod.mk.inj hidentity
  obtain ⟨hleftProtocol, hleftRaw⟩ := wiring_of_mem_handlers hleft
  obtain ⟨hrightProtocol, hrightRaw⟩ := wiring_of_mem_handlers hright
  change Handler.mk left.sendSpec left.sendIdent left.recvSpec left.recvIdent left.protocol
    left.raw = right
  rw [hsendSpec, hsendIdent, hrecvSpec, hrecvIdent, hleftProtocol, hleftRaw, ← hrightProtocol,
    ← hrightRaw]

theorem IdentsAgree.perm {left right : List Handler} (hagree : IdentsAgree left)
    (hperm : left.Perm right) : IdentsAgree right :=
  fun first hfirst second hsecond =>
    hagree first (hperm.mem_iff.mpr hfirst) second (hperm.mem_iff.mpr hsecond)

/-- Where idents agree, every handler record is registered by value. -/
theorem IdentsAgree.mem_registry_iff {server : Table} (hagree : IdentsAgree (handlers server))
    (handler : Handler) :
    handler ∈ (registry (handlers server)).handlers ↔ handler ∈ handlers server := by
  constructor
  · exact fun hmem => (newcomers_sublist [] (handlers server)).subset hmem
  · intro hmem
    have hidentity : handler.identity ∈ (newcomers [] (handlers server)).map Handler.identity :=
      (mem_identities_newcomers_iff [] (handlers server) handler.identity).mpr
        ⟨List.mem_map_of_mem hmem, List.not_mem_nil⟩
    obtain ⟨first, hfirst, hsame⟩ := List.mem_map.mp hidentity
    have hdeclared := (newcomers_sublist [] (handlers server)).subset hfirst
    rw [← hagree.eq hdeclared hmem hsame]
    exact hfirst

/-- Where idents agree, sharing a handler keeps its value. -/
theorem IdentsAgree.value_eq_of_shares {server : Table}
    (hagree : IdentsAgree (handlers server)) {candidate backend : Backend}
    (hcandidate : ∀ handler ∈ candidate.candidates, handler ∈ handlers server)
    (hshares : (registry (handlers server)).Shares candidate backend) :
    backend.value = candidate.value := by
  cases hshares with
  | directory served => rfl
  | proxy target => rfl
  | @handler declared held slot position hheld hidentity =>
      have hmem := (hagree.mem_registry_iff held).mp (List.mem_of_getElem? hheld)
      have hdeclared := hcandidate declared (List.mem_singleton.mpr rfl)
      rw [Backend.value, Backend.value, hagree.eq hmem hdeclared hidentity]

/-! ## Hosts by value -/

/-- Where idents agree, the routes of a host are by value what its element describes, without regard
to any other host or route. -/
theorem HostIn.mem_value_routes_iff {server : Table} {element : Value} {host : Host}
    (hhost : HostIn (registry (handlers server)) element host)
    (hagree : IdentsAgree (handlers server)) (helement : element ∈ hosts server)
    (route : String × Backend) :
    route ∈ host.value.routes ↔ ∃ value candidate, (route.1, value) ∈ Declared.routes element ∧
      backend? value = some candidate ∧ route.2 = candidate.value := by
  have hdeclared : ∀ path value candidate, (path, value) ∈ Declared.routes element →
      backend? value = some candidate →
      ∀ handler ∈ candidate.candidates, handler ∈ handlers server := by
    intro path value candidate hentry hbackend handler hmem
    cases candidate with
    | handler own slot =>
        obtain rfl := List.mem_singleton.mp hmem
        exact mem_handlers_iff.mpr ⟨element, helement, path, value, slot, hentry, hbackend⟩
    | _ => simp [Backend.candidates] at hmem
  constructor
  · intro hmem
    obtain ⟨⟨path, backend⟩, hroute, rfl⟩ := List.mem_map.mp hmem
    obtain ⟨value, candidate, hentry, hbackend, hshares⟩ := hhost.entry_of_route hroute
    exact ⟨value, candidate, hentry, hbackend,
      hagree.value_eq_of_shares (hdeclared _ _ _ hentry hbackend) hshares⟩
  · rintro ⟨value, candidate, hentry, hbackend, hvalue⟩
    obtain ⟨declared, backend, hother, hroute, hshares⟩ := hhost.routes _ hentry
    obtain rfl := Option.some.inj (hbackend.symm.trans hother)
    apply List.mem_map.mpr
    refine ⟨_, hroute, ?_⟩
    rw [hagree.value_eq_of_shares (hdeclared _ _ _ hentry hbackend) hshares, ← hvalue]

/-- The hosts of two elements that differ in the order of their routes are equal by value. -/
theorem HostReordered.value_eq {left right : Table} {element other : Value} {host built : Host}
    (hreordered : HostReordered element other)
    (hhost : HostIn (registry (handlers left)) element host) (helement : element ∈ hosts left)
    (hbuilt : HostIn (registry (handlers right)) other built) (hother : other ∈ hosts right)
    (hleft : IdentsAgree (handlers left)) (hright : IdentsAgree (handlers right))
    (hordered : Host.Ordered host.routes) (hbuiltOrdered : Host.Ordered built.routes) :
    host.value = built.value := by
  have hname : host.name = built.name := by
    have hnames := hreordered.hostName?_eq
    rw [hhost.hostName?, hbuilt.hostName?] at hnames
    exact Option.some.inj hnames
  have hmatching : host.matching = built.matching := by
    obtain ⟨table, rfl, -, hfirst, -⟩ := hhost.fields
    obtain ⟨_, rfl, -, hsecond, -⟩ := hbuilt.fields
    rw [hreordered.text?_eq (by decide), hsecond] at hfirst
    exact (Option.some.inj hfirst).symm
  refine Host.value_eq hname hmatching hordered hbuiltOrdered fun route => ?_
  rw [hhost.mem_value_routes_iff hleft helement, hbuilt.mem_value_routes_iff hright hother]
  simp only [hreordered.routes_perm.mem_iff]

end Declared

namespace Server

/-! ## Two servers -/

theorem host?_map_name (server : Server) (name : String) :
    (server.host? name).map Host.name = if name ∈ server.names then some name else none := by
  cases hhost : server.host? name with
  | none =>
      have hfresh : name ∉ server.names := by
        rw [← host?_isSome_iff, hhost]
        exact Bool.false_ne_true
      rw [if_neg hfresh, Option.map_none]
  | some host =>
      have hknown : name ∈ server.names := by
        rw [← host?_isSome_iff, hhost]
        rfl
      have hname : host.name = name := by
        simpa using List.find?_some hhost
      rw [if_pos hknown, Option.map_some, hname]

/-- Hosts with distinct names that are equal by value lie under the same names. -/
theorem host?_value_eq {left right : Server} (hnames : left.names.Perm right.names)
    (hright : right.names.Nodup)
    (hhosts : ∀ host ∈ left.hosts, ∃ other ∈ right.hosts, host.value = other.value)
    (name : String) : (left.host? name).map Host.value = (right.host? name).map Host.value := by
  cases hhost : left.host? name with
  | none =>
      have hfresh : name ∉ right.names := by
        rw [← hnames.mem_iff, ← host?_isSome_iff, hhost]
        exact Bool.false_ne_true
      have hnone : right.host? name = none := by
        simpa using mt host?_isSome_iff.mp hfresh
      rw [hnone, Option.map_none]
  | some host =>
      obtain ⟨other, hmem, hvalue⟩ := hhosts host (List.mem_of_find?_eq_some hhost)
      have hname : host.name = name := by
        simpa using List.find?_some hhost
      have hsame : host.name = other.name := by
        change host.value.name = other.value.name
        rw [hvalue]
      have hother : right.host? name = some other := by
        rw [← hname, hsame]
        exact host?_of_mem hright hmem
      rw [hother, Option.map_some, Option.map_some, hvalue]

/-- Two registries of the same handler records in different orders hold the same pairs. -/
theorem identities_perm {first second : List Handler} (hperm : first.Perm second) :
    (Declared.registry first).identities.Perm (Declared.registry second).identities := by
  rw [List.perm_ext_iff_of_nodup (Declared.nodup_registry first) (Declared.nodup_registry second)]
  intro identity
  simp only [Registry.identities, Declared.registry, mem_identities_newcomers_iff,
    (hperm.map Handler.identity).mem_iff]

/-- Where idents agree, the registries hold the same handlers. -/
theorem registry_perm {first second : Table}
    (hperm : (Declared.handlers first).Perm (Declared.handlers second))
    (hagree : Declared.IdentsAgree (Declared.handlers first)) :
    (Declared.registry (Declared.handlers first)).handlers.Perm
      (Declared.registry (Declared.handlers second)).handlers := by
  have hnodup : ∀ handlers, (Declared.registry handlers).handlers.Nodup :=
    fun handlers => (Declared.nodup_registry handlers).of_map _
  rw [List.perm_ext_iff_of_nodup (hnodup _) (hnodup _)]
  intro handler
  rw [hagree.mem_registry_iff, (hagree.perm hperm).mem_registry_iff]
  exact hperm.mem_iff

/-- Reordering the hosts of a server, and the routes of each, decides neither whether it compiles
nor which pairs of sockets it registers nor which host is the default.  If handler records with the
same sockets have the same idents, it decides nothing but the order of hosts and handlers. -/
theorem compile_order_independent {root other record reordered : Record} {name : String}
    (hkeys : Table.hasDistinctKeys record.table = true)
    (hfind : find root name = .ok record) (hother : find other name = .ok reordered)
    (hreordered : Declared.ServerReordered record.table reordered.table) :
    ((∃ server, ((compile root name).run ()).result = .ok server) ↔
      ∃ server, ((compile other name).run ()).result = .ok server) ∧
    ∀ left right, ((compile root name).run ()).result = .ok left →
      ((compile other name).run ()).result = .ok right →
      left.registry.identities.Perm right.registry.identities ∧
      left.registry.size = right.registry.size ∧
      left.defaultHost?.map Host.name = right.defaultHost?.map Host.name ∧
      (Declared.IdentsAgree (Declared.handlers record.table) →
        (∀ hostName,
          (left.host? hostName).map Host.value = (right.host? hostName).map Host.value) ∧
        left.registry.handlers.Perm right.registry.handlers) := by
  refine ⟨?_, ?_⟩
  · rw [compile_succeeds_iff hkeys hfind,
      compile_succeeds_iff (hreordered.hasDistinctKeys hkeys) hother]
    exact hreordered.wellFormed_iff
  · intro left right hleft hright
    have hleftOrdered := ordered_of_compile hleft
    have hrightOrdered := ordered_of_compile hright
    obtain ⟨hleftShell, hleftHosts, hleftRegistry, -, hleftDefault⟩ :=
      compile_built_of_find hfind hleft
    obtain ⟨hrightShell, hrightHosts, hrightRegistry, hrightNames, hrightDefault⟩ :=
      compile_built_of_find hother hright
    have hhandlers := hreordered.handlers_perm
    have helements := hreordered.hosts_reordered
    have hidentities : left.registry.identities.Perm right.registry.identities := by
      rw [hleftRegistry, hrightRegistry]
      exact identities_perm hhandlers
    have hnames : left.names.Perm right.names := by
      rw [names, names, Declared.names_of_hostIn hleftHosts, Declared.names_of_hostIn hrightHosts]
      exact helements.names_perm
    have hshell : left.shell = right.shell := by
      rw [hreordered.shell?_eq, hrightShell] at hleftShell
      exact (Option.some.inj hleftShell).symm
    refine ⟨hidentities, ?_, ?_, ?_⟩
    · simpa [Registry.identities, Registry.size] using hidentities.length_eq
    · rw [hleftDefault, hrightDefault, host?_map_name, host?_map_name, hshell]
      simp only [hnames.mem_iff]
    · intro hagree
      refine ⟨host?_value_eq hnames hrightNames ?_, ?_⟩
      · intro host hmem
        rw [hleftRegistry] at hleftHosts
        rw [hrightRegistry] at hrightHosts
        obtain ⟨position, hposition⟩ := List.mem_iff_getElem?.mp hmem
        obtain ⟨element, helement, hhost⟩ := exists_left_of_getElem? hleftHosts hposition
        obtain ⟨twin, htwin, hsame⟩ := helements.exists_right (List.mem_of_getElem? helement)
        obtain ⟨built, hbuilt, hdeclared⟩ := exists_right_of_mem hrightHosts htwin
        exact ⟨built, hbuilt, hsame.value_eq hhost (List.mem_of_getElem? helement) hdeclared htwin
          hagree (hagree.perm hhandlers) (hleftOrdered host hmem) (hrightOrdered built hbuilt)⟩
      · rw [hleftRegistry, hrightRegistry]
        exact registry_perm hhandlers hagree

/-! ## A document and another order of it -/

def chatRoutes : Table :=
  [("/chat", Declared.handlerRecord "tcp://127.0.0.1:9999" "chat" "tcp://127.0.0.1:9998"),
    ("/api", .table [("type", .string "proxy"), ("addr", .string "127.0.0.1"),
      ("port", .integer 8080)])]

def chatHosts : List Value :=
  [Declared.hostRecord "localhost" chatRoutes,
    Declared.hostRecord "files"
      [("/", Declared.handlerRecord "tcp://127.0.0.1:9999" "chat" "tcp://127.0.0.1:9998")]]

/-- The same hosts the other way round, and the routes of one of them as well. -/
def turnedHosts : List Value :=
  [Declared.hostRecord "files"
      [("/", Declared.handlerRecord "tcp://127.0.0.1:9999" "chat" "tcp://127.0.0.1:9998")],
    Declared.hostRecord "localhost" chatRoutes.reverse]

theorem chatHosts_reordered : Declared.ElementsReordered chatHosts turnedHosts := by
  refine ⟨turnedHosts.reverse, ?_, List.reverse_perm turnedHosts⟩
  apply List.Forall₂.cons
  · apply Declared.HostReordered.table
    iterate 2 refine List.Forall₂.cons ⟨rfl, Or.inl rfl⟩ ?_
    exact List.Forall₂.cons ⟨rfl, Or.inr ⟨rfl, .table (List.reverse_perm chatRoutes).symm⟩⟩
      List.Forall₂.nil
  · exact List.Forall₂.cons (.same _) List.Forall₂.nil

theorem compile_order_independent_turned :
    ∃ left right,
      ((compile (.root (Declared.document chatHosts)) "main").run ()).result = .ok left ∧
      ((compile (.root (Declared.document turnedHosts)) "main").run ()).result = .ok right ∧
      (∀ hostName,
        (left.host? hostName).map Host.value = (right.host? hostName).map Host.value) ∧
      left.registry.handlers.Perm right.registry.handlers := by
  have hindependent := compile_order_independent (by decide)
    (rfl : find (.root (Declared.document chatHosts)) "main" = .ok _)
    (rfl : find (.root (Declared.document turnedHosts)) "main" = .ok _)
    (by
      iterate 9 refine List.Forall₂.cons ⟨rfl, Or.inl rfl⟩ ?_
      exact List.Forall₂.cons ⟨rfl, Or.inr ⟨rfl, .array chatHosts_reordered⟩⟩ List.Forall₂.nil)
  refine ⟨_, _, rfl, rfl, (hindependent.2 _ _ rfl rfl).2.2.2 ?_⟩
  unfold Declared.IdentsAgree
  decide

end Server

end HostRouting
