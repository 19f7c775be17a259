import HostRouting.Proofs.HostLoading

/-!
# The hosts that a successful run has built

When all hosts of a row are built without failure, the server has gained one host for each element
of the row, in its order, with the declared name, pattern and routes; and its registry has taken in
the handler records of the row.
-/

namespace HostRouting

open Toml (Value)

namespace Declared

/-- A host is the one that an element of `hosts` declares: it has the name and the pattern of the
element, a route for each of its paths and no other, and each route leads to what the value of the
path declares, with handlers shared through a registry. -/
structure HostIn (registry : Registry) (element : Value) (host : Host) : Prop where
  fields : ∃ table, element = .table table ∧ text? table "name" = some host.name ∧
    text? table "matching" = some host.matching ∧ entries? table "routes" = some (routes element)
  nodup : host.paths.Nodup
  paths : host.paths.Perm ((routes element).map Prod.fst)
  routes : ∀ entry ∈ routes element, ∃ candidate backend,
    backend? entry.2 = some candidate ∧ (entry.1, backend) ∈ host.routes ∧
      registry.Shares candidate backend

theorem HostIn.extend {registry : Registry} {element : Value} {host : Host}
    (hhost : HostIn registry element host) (more : List Handler) :
    HostIn (registry.extend more) element host where
  fields := hhost.fields
  nodup := hhost.nodup
  paths := hhost.paths
  routes := by
    intro entry hmem
    obtain ⟨candidate, backend, hdeclared, hroute, hshares⟩ := hhost.routes entry hmem
    exact ⟨candidate, backend, hdeclared, hroute, hshares.extend more⟩

/-- Each route of a declared host comes from an entry of the element. -/
theorem HostIn.entry_of_route {registry : Registry} {element : Value} {host : Host}
    (hhost : HostIn registry element host) {path : String} {backend : Backend}
    (hroute : (path, backend) ∈ host.routes) :
    ∃ value candidate, (path, value) ∈ Declared.routes element ∧
      backend? value = some candidate ∧ registry.Shares candidate backend := by
  have hpath : path ∈ (Declared.routes element).map Prod.fst :=
    hhost.paths.mem_iff.mp (List.mem_map.mpr ⟨_, hroute, rfl⟩)
  obtain ⟨entry, hentry, rfl⟩ := List.mem_map.mp hpath
  obtain ⟨candidate, other, hdeclared, hother, hshares⟩ := hhost.routes entry hentry
  have hsame : some backend = some other :=
    (Host.route?_of_mem_routes hhost.nodup hroute).symm.trans
      (Host.route?_of_mem_routes hhost.nodup hother)
  obtain rfl := Option.some.inj hsame
  exact ⟨entry.2, candidate, hentry, hdeclared, hshares⟩

end Declared

namespace Server

theorem readHost_eq_ok {record : Record} {name matching : String} {routes : Record}
    (hread : readHost record = .ok (name, matching, routes)) :
    Declared.text? record.table "name" = some name ∧
      Declared.text? record.table "matching" = some matching ∧
      Declared.entries? record.table "routes" = some routes.table ∧
      routes.label = record.label ++ " routes" := by
  simp only [readHost, bind_eq_ok_iff] at hread
  obtain ⟨readName, hname, readMatching, hmatching, readRoutes, hroutes, hresult⟩ := hread
  cases hresult
  refine ⟨?_, ?_, ?_⟩
  · rw [← toOption_string, hname, toOption_ok]
  · rw [← toOption_string, hmatching, toOption_ok]
  · rw [Record.subtable] at hroutes
    rcases htable : record.read "routes" Value.table? with failure | table
    · simp [htable, Except.map] at hroutes
    · simp only [htable, Except.map, Except.ok.injEq] at hroutes
      rw [Declared.entries?, ← toOption_read, htable, ← hroutes, toOption_ok]
      exact ⟨rfl, String.append_assoc⟩

/-- What a server has gained when a row of elements was built without failure. -/
structure Built (before : Server) (elements : List Value) (after : Server) : Prop where
  shell : after.shell = before.shell
  registry : after.registry = before.registry.extend (Declared.hostHandlers elements)
  hosts : ∃ built, after.hosts = before.hosts ++ built ∧
    List.Forall₂ (Declared.HostIn after.registry) elements built

/-- The host that is built from a record is the one that the record declares. -/
theorem hostIn_of_loadRoutes {record : Record} {before : Server} {name matching : String}
    {routes : Record} {count : Nat} {built : Construction} {events : List Event}
    (hread : readHost record = .ok (name, matching, routes))
    (hroutes : (Construction.loadRoutes routes).run (before.opening name matching) =
      ⟨.ok count, built, events⟩) :
    Declared.HostIn built.registry (.table record.table) built.host ∧
      built.registry = before.registry.extend
        (Declared.routeHandlers (Declared.routes (.table record.table))) := by
  obtain ⟨hname, hmatching, hentries, -⟩ := readHost_eq_ok hread
  have hdeclared : Declared.routes (.table record.table) = routes.table := by
    simp [Declared.routes, Value.table?, hentries]
  have hcontinues := loadRoutes_continues hroutes
  obtain ⟨-, hbuilt⟩ := Construction.countEach_loadRoute_built hroutes
  refine ⟨⟨⟨record.table, rfl, ?_, ?_, ?_⟩, hcontinues.paths, ?_, ?_⟩, ?_⟩
  · rw [hname, hcontinues.name]
    rfl
  · rw [hmatching, hcontinues.matching]
    rfl
  · rw [hentries, hdeclared]
  · have hperm := hbuilt.paths
    rw [hdeclared]
    simpa [Host.paths, opening] using hperm
  · rw [hdeclared]
    exact hbuilt.added
  · rw [hdeclared]
    exact hbuilt.registry

theorem item_eq_ok {record item : Record} {field : String} {position : Nat} {element : Value}
    (hitem : record.item field position element = .ok item) : element = .table item.table := by
  cases element with
  | table entries =>
      simp only [Record.item, Value.table?, Except.ok.injEq] at hitem
      rw [← hitem]
  | _ => simp [Record.item, Value.table?] at hitem

theorem loadItem_built {record : Record} {position : Nat} {element : Value}
    {before after : Server} {events : List Event}
    (hrun : (loadItem (record.item "hosts" position element)).run before =
      ⟨.ok (), after, events⟩) : Built before [element] after := by
  obtain ⟨item, index, hitem, hhost⟩ := loadItem_eq_ok hrun
  obtain ⟨name, matching, routes, count, built, reported, hread, hroutes, -, -, rfl⟩ :=
    loadHost_eq_ok hhost
  obtain rfl := item_eq_ok hitem
  obtain ⟨hhost, hregistry⟩ := hostIn_of_loadRoutes hread hroutes
  refine ⟨rfl, ?_, [built.host], rfl, List.Forall₂.cons hhost List.Forall₂.nil⟩
  simpa [Declared.hostHandlers] using hregistry

theorem Built.append {before middle after : Server} {left right : List Value}
    (hleft : Built before left middle) (hright : Built middle right after) :
    Built before (left ++ right) after := by
  obtain ⟨leftHosts, hleftHosts, hleftDeclared⟩ := hleft.hosts
  obtain ⟨rightHosts, hrightHosts, hrightDeclared⟩ := hright.hosts
  refine ⟨hright.shell.trans hleft.shell, ?_, leftHosts ++ rightHosts, ?_, ?_⟩
  · rw [hright.registry, hleft.registry, ← Registry.extend_append]
    simp [Declared.hostHandlers]
  · rw [hrightHosts, hleftHosts, List.append_assoc]
  · refine List.rel_append ?_ hrightDeclared
    apply hleftDeclared.imp
    intro element host hhost
    rw [hright.registry]
    exact hhost.extend _

theorem countEach_loadItem_built {record : Record} {elements : List Value} {position : Nat}
    {before after : Server} {count : Nat} {events : List Event}
    (hrun : (Audited.countEach loadItem (itemsFrom record position elements)).run before =
      ⟨.ok count, after, events⟩) :
    count = elements.length ∧ Built before elements after := by
  induction elements generalizing position before count events with
  | nil =>
      rw [itemsFrom, Audited.run_countEach_nil] at hrun
      cases hrun
      exact ⟨rfl, rfl, by simp [Declared.hostHandlers], [], by simp, List.Forall₂.nil⟩
  | cons element rest ih =>
      obtain ⟨middle, reported, number, more, hfirst, hrest, rfl, -⟩ :=
        Audited.run_countEach_cons_eq_ok hrun
      obtain ⟨rfl, hbuilt⟩ := ih hrest
      exact ⟨rfl, (loadItem_built hfirst).append hbuilt⟩

/-- A successful run over the hosts of a record has built what the record declares. -/
theorem loadHosts_built {record : Record} {before after : Server} {count : Nat}
    {events : List Event} (hrun : (loadHosts record).run before = ⟨.ok count, after, events⟩) :
    ∃ elements, Declared.items? record.table "hosts" = some elements ∧
      count = elements.length ∧ Built before elements after := by
  obtain ⟨elements, reported, hitems, hcount⟩ := loadHosts_eq_ok hrun
  obtain ⟨rfl, hbuilt⟩ := countEach_loadItem_built hcount
  exact ⟨elements, hitems, rfl, hbuilt⟩

end Server

end HostRouting
