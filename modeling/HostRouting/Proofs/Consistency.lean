import HostRouting.Proofs.Histories

/-!
# Consistency of a server

Whatever is done to a server, and wherever it fails, its host names and its pairs of sockets stay
distinct, a host that was built from a record leads to the handlers of the registry, and the
default host is the one with the default name that was built from a record.
-/

namespace HostRouting

namespace History

/-- What holds of every history of a shell. -/
structure Consistent (shell : Shell) (history : History) : Prop where
  shell_eq : history.server.shell = shell
  names : history.server.names.Nodup
  identities : history.server.registry.identities.Nodup
  built : ∀ position ∈ history.built, ∃ host,
    history.server.hosts[position]? = some host ∧ host.LinkedTo history.server.registry
  default : ∀ position, history.server.defaultPosition = some position ↔
    position ∈ history.built ∧ ∃ host,
      history.server.hosts[position]? = some host ∧ host.name = shell.defaultHostName

variable {shell : Shell} {history : History}

theorem consistent_ofShell_nil (shell : Shell) : Consistent shell (ofShell shell []) where
  shell_eq := rfl
  names := List.nodup_nil
  identities := List.nodup_nil
  built := by simp [ofShell]
  default := by simp [ofShell]

/-- The position of a host that was built from a record is one of the list. -/
theorem Consistent.lt_length (hconsistent : history.Consistent shell) {position : Nat}
    (hbuilt : position ∈ history.built) : position < history.server.hosts.length := by
  obtain ⟨host, hhost, -⟩ := hconsistent.built position hbuilt
  exact (List.getElem?_eq_some_iff.mp hhost).1

/-- Where hosts were built, a further host behind the others changes nothing. -/
theorem Consistent.getElem?_append (hconsistent : history.Consistent shell) {position : Nat}
    (hbuilt : position ∈ history.built) (host : Host) :
    (history.server.hosts ++ [host])[position]? = history.server.hosts[position]? :=
  List.getElem?_append_left (hconsistent.lt_length hbuilt)

theorem nodup_names_append {server : Server} (hnames : server.names.Nodup) {name : String}
    (hfresh : name ∉ server.names) : (server.names ++ [name]).Nodup := by
  rw [List.nodup_append_comm]
  exact List.nodup_cons.mpr ⟨hfresh, hnames⟩

/-! ## One operation -/

theorem Consistent.addHost (hconsistent : history.Consistent shell) (host : Host) :
    (history.perform (.addHost host)).Consistent shell := by
  rcases perform_addHost history host with hsame | ⟨hfresh, hadded⟩
  · rw [hsame]
    exact hconsistent
  · rw [hadded]
    refine ⟨hconsistent.shell_eq, ?_, hconsistent.identities, ?_, ?_⟩
    · have hnames := nodup_names_append hconsistent.names hfresh
      simpa [Server.names] using hnames
    · intro position hbuilt
      rw [hconsistent.getElem?_append hbuilt]
      exact hconsistent.built position hbuilt
    · intro position
      rw [hconsistent.default position]
      apply and_congr_right
      intro hbuilt
      rw [hconsistent.getElem?_append hbuilt]

/-- A host that fails leaves a consistent server, whatever it has registered. -/
theorem Consistent.withRegistry (hconsistent : history.Consistent shell)
    {more : List Handler} {registry : Registry}
    (hregistry : registry = history.server.registry.extend more) :
    (history.build (history.server.withRegistry registry)).Consistent shell := by
  subst registry
  rw [build_of_hosts_eq (Server.withRegistry_hosts _ _)]
  refine ⟨hconsistent.shell_eq, hconsistent.names, ?_, ?_, hconsistent.default⟩
  · exact Registry.nodup_identities_extend hconsistent.identities more
  · intro position hbuilt
    obtain ⟨host, hhost, hlinked⟩ := hconsistent.built position hbuilt
    exact ⟨host, hhost, hlinked.extend more⟩

/-- The default host after a host with a new name was installed: no host that was built earlier has
that name, so there is still at most one. -/
theorem Consistent.default_withHost (hconsistent : history.Consistent shell)
    {construction : Construction} (hfresh : construction.host.name ∉ history.server.names)
    (position : Nat) :
    (history.server.withHost construction).defaultPosition = some position ↔
      position ∈ history.built ++ [history.server.hosts.length] ∧ ∃ host,
        (history.server.hosts ++ [construction.host])[position]? = some host ∧
          host.name = shell.defaultHostName := by
  have hlast : (history.server.hosts ++ [construction.host])[history.server.hosts.length]? =
      some construction.host := List.getElem?_concat_length
  have hother : ∀ host, history.server.hosts[position]? = some host →
      host.name ≠ construction.host.name := by
    intro host hhost hname
    apply hfresh
    rw [← hname]
    exact List.mem_map.mpr ⟨host, List.mem_of_getElem? hhost, rfl⟩
  rw [Server.withHost, hconsistent.shell_eq, List.mem_append, List.mem_singleton]
  by_cases hdefault : construction.host.name = shell.defaultHostName
  · rw [if_pos hdefault]
    constructor
    · rintro hposition
      obtain rfl := Option.some.inj hposition
      exact ⟨Or.inr rfl, construction.host, hlast, hdefault⟩
    · rintro ⟨hbuilt | rfl, host, hhost, hname⟩
      · rw [hconsistent.getElem?_append hbuilt] at hhost
        exact absurd (hname.trans hdefault.symm) (hother host hhost)
      · rfl
  · rw [if_neg hdefault, hconsistent.default position]
    constructor
    · rintro ⟨hbuilt, hhost⟩
      rw [hconsistent.getElem?_append hbuilt]
      exact ⟨Or.inl hbuilt, hhost⟩
    · rintro ⟨hbuilt | rfl, host, hhost, hname⟩
      · rw [hconsistent.getElem?_append hbuilt] at hhost
        exact ⟨hbuilt, host, hhost, hname⟩
      · rw [hlast] at hhost
        obtain rfl := Option.some.inj hhost
        exact absurd hname hdefault

theorem Consistent.withHost (hconsistent : history.Consistent shell) {more : List Handler}
    {construction : Construction}
    (hregistry : construction.registry = history.server.registry.extend more)
    (hlinked : construction.host.LinkedTo construction.registry)
    (hfresh : construction.host.name ∉ history.server.names) :
    (history.build (history.server.withHost construction)).Consistent shell := by
  refine ⟨hconsistent.shell_eq, ?_, ?_, ?_, ?_⟩
  · rw [build_server, Server.withHost_names]
    exact nodup_names_append hconsistent.names hfresh
  · rw [build_server, Server.withHost_registry, hregistry]
    exact Registry.nodup_identities_extend hconsistent.identities more
  · intro position hbuilt
    rw [build_withHost, List.mem_append, List.mem_singleton] at hbuilt
    rw [build_server, Server.withHost_hosts, Server.withHost_registry]
    rcases hbuilt with hbuilt | rfl
    · obtain ⟨host, hhost, hbefore⟩ := hconsistent.built position hbuilt
      rw [hconsistent.getElem?_append hbuilt]
      refine ⟨host, hhost, ?_⟩
      rw [hregistry]
      exact hbefore.extend more
    · exact ⟨construction.host, List.getElem?_concat_length, hlinked⟩
  · intro position
    rw [build_withHost]
    exact hconsistent.default_withHost hfresh position

theorem Consistent.loadHost (hconsistent : history.Consistent shell) (record : Record) :
    (history.perform (.loadHost record)).Consistent shell := by
  have houtcome := Server.loadHost_outcome record history.server
  rw [perform]
  generalize (Server.loadHost record).run history.server = outcome at houtcome ⊢
  cases houtcome with
  | unread hread =>
      rw [build_of_hosts_eq rfl]
      exact hconsistent
  | unrouted hread hroutes =>
      obtain ⟨more, hmore⟩ := (Server.loadRoutes_continues hroutes).registry
      exact hconsistent.withRegistry hmore
  | taken hread hroutes htaken =>
      obtain ⟨more, hmore⟩ := (Server.loadRoutes_continues hroutes).registry
      exact hconsistent.withRegistry hmore
  | installed hread hroutes hfresh =>
      have hcontinues := Server.loadRoutes_continues hroutes
      obtain ⟨more, hmore⟩ := hcontinues.registry
      apply hconsistent.withHost hmore hcontinues.linked
      rw [hcontinues.name]
      exact hfresh

/-! ## Any row of operations -/

theorem consistent_ofShell (shell : Shell) (operations : List Operation) :
    (ofShell shell operations).Consistent shell :=
  foldl_perform_preserves (fun _ host hhistory => hhistory.addHost host)
    (fun _ record hhistory => hhistory.loadHost record) (consistent_ofShell_nil shell) operations

/-- A handler route of a host that was built from a record leads to the handler that the registry
keeps for its pair of sockets. -/
theorem Consistent.handler_route (hconsistent : history.Consistent shell) {position : Nat}
    {host : Host} (hbuilt : position ∈ history.built)
    (hhost : history.server.hosts[position]? = some host) {path : String} {handler : Handler}
    {slot : Option Nat} (hroute : (path, .handler handler slot) ∈ host.routes) :
    ∃ index, slot = some index ∧ history.server.registry.handlers[index]? = some handler ∧
      history.server.registry.find? handler.identity = some index := by
  obtain ⟨other, hother, hlinked⟩ := hconsistent.built position hbuilt
  obtain rfl : host = other := Option.some.inj (hhost.symm.trans hother)
  obtain ⟨index, hslot, hheld⟩ := hlinked _ hroute
  exact ⟨index, hslot, hheld, Registry.find?_identity hconsistent.identities hheld⟩

/-- The default host stays the default host. -/
theorem Consistent.default_extends (hconsistent : history.Consistent shell) {later : History}
    (hlater : later.Consistent shell) (hextends : history.Extends later) {position : Nat}
    (hdefault : history.server.defaultPosition = some position) :
    later.server.defaultPosition = some position := by
  obtain ⟨hbuilt, host, hhost, hname⟩ := (hconsistent.default position).mp hdefault
  apply (hlater.default position).mpr
  refine ⟨hextends.built position hbuilt, host, ?_, hname⟩
  obtain ⟨more, hmore⟩ := hextends.hosts
  rw [← hmore, List.getElem?_append_left (hconsistent.lt_length hbuilt)]
  exact hhost

/-- Once there is a default host, no other host can be installed under its name. -/
theorem Consistent.install_refused (hconsistent : history.Consistent shell) {position : Nat}
    (hdefault : history.server.defaultPosition = some position) {host : Host}
    (hname : host.name = shell.defaultHostName) :
    (Server.install host).run history.server =
      ⟨.error (.duplicateHost shell.uuid host.name), history.server, []⟩ := by
  obtain ⟨-, other, hother, hotherName⟩ := (hconsistent.default position).mp hdefault
  rw [← hconsistent.shell_eq]
  apply Server.install_of_mem
  rw [hname, ← hotherName]
  exact List.mem_map.mpr ⟨other, List.mem_of_getElem? hother, rfl⟩

/-- A host with the default name that was not built from a record keeps the default unset. -/
theorem Consistent.default_of_not_built (hconsistent : history.Consistent shell) {position : Nat}
    {host : Host} (hhost : history.server.hosts[position]? = some host)
    (hname : host.name = shell.defaultHostName) (hother : position ∉ history.built) :
    history.server.defaultPosition = none := by
  by_contra hset
  obtain ⟨index, hindex⟩ := Option.ne_none_iff_exists'.mp hset
  obtain ⟨hbuilt, named, hnamed, hdefault⟩ := (hconsistent.default index).mp hindex
  have hleft : history.server.names[index]? = some shell.defaultHostName := by
    simp [Server.names, hnamed, hdefault]
  have hright : history.server.names[position]? = some shell.defaultHostName := by
    simp [Server.names, hhost, hname]
  obtain ⟨hlt, -⟩ := List.getElem?_eq_some_iff.mp hleft
  have hsame := (List.getElem?_inj hlt hconsistent.names).mp (hleft.trans hright.symm)
  exact hother (hsame ▸ hbuilt)

/-- However hosts are added to a server and built into it, and wherever that fails: host names and
pairs of sockets are distinct; each handler route of a host that was built from a record leads to
the handler that the registry keeps for its pair; and the default host is the one with the default
name that was built from a record, as long as there is one, from then on for good. -/
theorem server_invariants (shell : Shell) (operations more : List Operation) :
    let history := ofShell shell operations
    let server := history.server
    server.shell = shell ∧
    server.names.Nodup ∧
    server.registry.identities.Nodup ∧
    (∀ position ∈ history.built, ∃ host, server.hosts[position]? = some host ∧
      ∀ path handler slot, (path, .handler handler slot) ∈ host.routes →
        ∃ index, slot = some index ∧ server.registry.handlers[index]? = some handler ∧
          server.registry.find? handler.identity = some index) ∧
    (∀ position, server.defaultPosition = some position →
      ∃ host, server.hosts[position]? = some host ∧ host.name = shell.defaultHostName) ∧
    (server.defaultPosition.isSome = true ↔ ∃ position ∈ history.built, ∃ host,
      server.hosts[position]? = some host ∧ host.name = shell.defaultHostName) ∧
    (∀ position, server.defaultPosition = some position →
      (ofShell shell (operations ++ more)).server.defaultPosition = some position ∧
      ∀ host : Host, host.name = shell.defaultHostName →
        (Server.install host).run server =
          ⟨.error (.duplicateHost shell.uuid host.name), server, []⟩) ∧
    (∀ position host, server.hosts[position]? = some host →
      host.name = shell.defaultHostName → position ∉ history.built →
        server.defaultPosition = none) := by
  have hconsistent := consistent_ofShell shell operations
  have hlater := consistent_ofShell shell (operations ++ more)
  have hextends : (ofShell shell operations).Extends (ofShell shell (operations ++ more)) := by
    rw [ofShell_append]
    exact extends_foldl_perform _ more
  refine ⟨hconsistent.shell_eq, hconsistent.names, hconsistent.identities, ?_, ?_, ?_, ?_, ?_⟩
  · intro position hbuilt
    obtain ⟨host, hhost, -⟩ := hconsistent.built position hbuilt
    exact ⟨host, hhost, fun _ _ _ hroute => hconsistent.handler_route hbuilt hhost hroute⟩
  · intro position hdefault
    exact ((hconsistent.default position).mp hdefault).2
  · rw [Option.isSome_iff_exists]
    exact exists_congr fun position => hconsistent.default position
  · intro position hdefault
    exact ⟨hconsistent.default_extends hlater hextends hdefault,
      fun host hname => hconsistent.install_refused hdefault hname⟩
  · intro position host hhost hname hother
    exact hconsistent.default_of_not_built hhost hname hother

end History

end HostRouting
