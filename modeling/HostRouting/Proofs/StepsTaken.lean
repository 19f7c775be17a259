import HostRouting.Proofs.CompiledServer
import HostRouting.Proofs.DeclaredSteps

/-!
# A run takes the steps of its document

Loading routes, hosts and servers follows the steps that the document lists: what is reported is
what the steps before the first defect report, and the failure, if there is one, is that defect.
This is shown once for each way to compose actions; the registry, the names that are taken and the
paths of a host are what ties the steps to the state of the run.

In a document the keys of a table are distinct, so no path is ever taken.
-/

namespace HostRouting

open Toml (Table Value)
open Declared (Step)

/-- An outcome follows some steps: it reports what they report before the first defect, and fails
with that defect if there is one. -/
structure Outcome.Follows {σ α : Type} (outcome : Outcome σ α) (steps : List Step) : Prop where
  events : outcome.events = Step.reported steps
  failure : failure? outcome.result = (Step.failures steps).head?

namespace Audited

variable {σ τ α β : Type} {state : σ} {steps rest : List Step}

theorem follows_pure (value : α) (state : σ) :
    ((pure value : Audited σ α).run state).Follows [] :=
  ⟨rfl, rfl⟩

theorem follows_emit (event : Event) (state : σ) :
    ((emit event).run state).Follows [.report event] :=
  ⟨rfl, rfl⟩

/-- Where something is only looked at, defects may be found but nothing is reported. -/
theorem follows_ofExcept {result : Except Failure α} {found : List Failure}
    (hresult : failure? result = found.head?) (state : σ) :
    ((ofExcept result).run state).Follows (found.map .fail) where
  events := (Step.reported_map_fail found).symm
  failure := by
    rw [Step.failures_map_fail]
    exact hresult

/-- A composed action takes the steps of its first part and then, from the state that this one
leaves, those of its second part. -/
theorem follows_bind {first : Audited σ α} {next : α → Audited σ β}
    (hfirst : (first.run state).Follows steps)
    (hnext : ∀ value after events, first.run state = ⟨.ok value, after, events⟩ →
      ((next value).run after).Follows rest) :
    ((first >>= next).run state).Follows (steps ++ rest) := by
  rcases hrun : first.run state with ⟨failure | value, after, events⟩
  -- A failure of the first part is a defect among its steps, which cuts off the steps behind.
  · rw [hrun] at hfirst
    have hdefect : Step.failures steps ≠ [] := by
      intro hclean
      have hfailure := hfirst.failure
      rw [hclean] at hfailure
      cases hfailure
    rw [run_bind_of_error hrun]
    constructor
    · rw [Step.reported_append_of_defect hdefect]
      exact hfirst.events
    · rw [Step.failures_append]
      exact head?_append_of_some hfirst.failure _
  · rw [hrun] at hfirst
    have hclean : Step.failures steps = [] := List.head?_eq_none_iff.mp hfirst.failure.symm
    have hrest := hnext value after events hrun
    have hevents : events = Step.reported steps := hfirst.events
    rw [run_bind_of_ok hrun]
    constructor
    · rw [Step.reported_append_of_clean hclean, hevents, hrest.events]
    · rw [Step.failures_append, hclean, List.nil_append]
      exact hrest.failure

theorem follows_within {enter : σ → τ} {leave : τ → σ → σ} {action : Audited τ α}
    (haction : (action.run (enter state)).Follows steps) :
    ((within enter leave action).run state).Follows steps where
  events := haction.events
  failure := by
    rw [run_within, failure?_map]
    exact haction.failure

/-- Before going on, an event may have to be reported. -/
theorem follows_unless {next : Audited σ α} (condition : Prop) [Decidable condition]
    (event : Event) (hnext : (next.run state).Follows rest) :
    ((if condition then next else (do emit event; next)).run state).Follows
      ((if condition then [] else [event]).map .report ++ rest) := by
  by_cases hcondition : condition
  · rw [if_pos hcondition, if_pos hcondition]
    exact hnext
  · rw [if_neg hcondition, if_neg hcondition]
    exact follows_bind (follows_emit event state) fun _ _ _ hrun => by
      rw [run_emit] at hrun
      obtain ⟨-, rfl, -⟩ := Outcome.mk.inj hrun
      exact hnext

/-- A count takes the steps of its first member and then those of the others. -/
theorem follows_countEach_cons {action : α → Audited σ Unit} {member : α} {others : List α}
    (hmember : ((action member).run state).Follows steps)
    (hothers : ∀ after events, (action member).run state = ⟨.ok (), after, events⟩ →
      ((countEach action others).run after).Follows rest) :
    ((countEach action (member :: others)).run state).Follows (steps ++ rest) := by
  apply follows_bind hmember
  intro _ after events hrun
  rw [← List.append_nil rest]
  apply follows_bind (hothers after events hrun)
  intro count last more _
  exact follows_pure (count + 1) last

end Audited

/-! ## Routes -/

namespace Construction

theorem loadRoute_follows {routes : Record} {entry : String × Value} {before : Construction}
    (hfresh : entry.1 ∉ before.host.paths) :
    ((loadRoute routes entry).run before).Follows
      (Declared.entrySteps before.host.name routes.label before.registry entry) := by
  have hdefects := failure?_readRoute before.host.name routes entry
  have hdeclared := toOption_readRoute before.host.name routes entry
  have houtcome := loadRoute_outcome routes entry before
  rw [Declared.entrySteps, Declared.entryTrail, ← hdeclared]
  generalize (loadRoute routes entry).run before = outcome at houtcome ⊢
  cases houtcome with
  | unread hread =>
      rw [hread] at hdefects ⊢
      rw [toOption_error, Option.elim_none, List.map_nil, List.append_nil]
      constructor
      · exact (Step.reported_map_fail _).symm
      · rw [Step.failures_map_fail, ← hdefects, failure?_error, failure?_error]
  | taken hread htaken => exact absurd htaken hfresh
  | @added candidate backend hread _ hshares =>
      rw [hread] at hdefects ⊢
      rw [toOption_ok, Option.elim_some, List.head?_eq_none_iff.mp hdefects.symm, List.map_nil,
        List.nil_append]
      constructor
      · rw [Step.reported_map_report, Declared.routeTrail, Registry.warnings_eq]
      · rw [Step.failures_map_report]
        rfl

/-- Building routes takes the steps through their entries, if no path comes twice. -/
theorem countEach_loadRoute_follows {routes : Record} {entries : Table} {before : Construction}
    (hkeys : (entries.map Prod.fst).Nodup)
    (hfresh : ∀ path ∈ entries.map Prod.fst, path ∉ before.host.paths) :
    ((Audited.countEach (loadRoute routes) entries).run before).Follows
      (Declared.routesSteps before.host.name routes.label before.registry entries) := by
  induction entries generalizing before with
  | nil => exact ⟨rfl, rfl⟩
  | cons entry rest ih =>
      rw [List.map_cons] at hkeys hfresh
      obtain ⟨hnew, hrest⟩ := List.nodup_cons.mp hkeys
      have hentry := hfresh entry.1 List.mem_cons_self
      rw [Declared.routesSteps]
      apply Audited.follows_countEach_cons (loadRoute_follows hentry)
      intro after events hrun
      have hbuilt := loadRoute_built hrun
      have hname : after.host.name = before.host.name := by
        have houtcome := loadRoute_outcome routes entry before
        rw [hrun] at houtcome
        cases houtcome
        rfl
      have hregistry : after.registry =
          before.registry.extend (Declared.candidates entry.2) := by
        rw [hbuilt.registry, Declared.routeHandlers, List.flatMap_singleton]
      rw [← hname, ← hregistry]
      apply ih hrest
      -- The paths that are still to come are neither old ones nor the one just added.
      intro path hmem htaken
      rcases List.mem_cons.mp (hbuilt.paths.mem_iff.mp htaken) with rfl | htaken
      · exact hnew hmem
      · exact hfresh path (List.mem_cons_of_mem _ hmem) htaken

end Construction

/-! ## Hosts -/

namespace Declared

theorem HostIn.hostName? {registry : Registry} {element : Value} {host : Host}
    (hhost : HostIn registry element host) : hostName? element = some host.name := by
  obtain ⟨table, rfl, hname, -⟩ := hhost.fields
  exact hname

/-- The names of declared hosts are those of their elements. -/
theorem names_of_hostIn {registry : Registry} {elements : List Value} {built : List Host}
    (hhosts : List.Forall₂ (HostIn registry) elements built) :
    built.map Host.name = elements.filterMap Declared.hostName? := by
  induction hhosts with
  | nil => rfl
  | cons hhost _ ih => rw [List.map_cons, List.filterMap_cons_some hhost.hostName?, ih]

end Declared

namespace Server

theorem failure?_readHost (record : Record) :
    failure? (readHost record) = (Declared.hostFieldDefects record.label record.table).head? := by
  refine failure?_bind (failure?_string record "name") fun _ _ => ?_
  refine failure?_bind (failure?_string record "matching") fun _ _ => ?_
  exact failure?_bind (failure?_subtable record "routes") fun _ _ => rfl

theorem loadRoutes_follows {routes : Record} (hkeys : (routes.table.map Prod.fst).Nodup)
    (before : Server) (name matching : String) :
    ((Construction.loadRoutes routes).run (before.opening name matching)).Follows
      (Declared.routesSteps name routes.label before.registry routes.table) := by
  apply @Construction.countEach_loadRoute_follows routes _ (before.opening name matching) hkeys
  intro path _ htaken
  simp [opening, Host.paths] at htaken

/-- Adding a host can only find that its name is taken. -/
theorem install_follows (host : Host) (before : Server) :
    ((install host).run before).Follows
      ((Declared.takenDefects before.shell.uuid before.names host.name).map .fail) := by
  rw [Declared.takenDefects]
  by_cases htaken : host.name ∈ before.names
  · rw [install_of_mem htaken, if_pos htaken]
    exact ⟨rfl, rfl⟩
  · have hinstall := @install_of_not_mem before ⟨host, before.registry⟩ htaken
    change (install host).run before = _ at hinstall
    rw [hinstall, if_neg htaken]
    exact ⟨rfl, rfl⟩

/-- Building a host whose fields are read takes the steps through its routes, finds out whether its
name is taken, and reports it. -/
theorem loadReadHost_follows {name matching : String} {routes : Record} {label : String}
    (hkeys : (routes.table.map Prod.fst).Nodup) (hlabel : routes.label = label ++ " routes")
    (before : Server) :
    ((loadReadHost name matching routes).run before).Follows
      (Declared.namedSteps label before.shell.uuid before.names before.registry name
        (some matching) routes.table) := by
  have hwithin : ((Audited.within (opening · name matching)
      (fun built server => server.withRegistry built.registry)
      (Construction.loadRoutes routes)).run before).Follows
        (Declared.routesSteps name routes.label before.registry routes.table) :=
    Audited.follows_within (loadRoutes_follows hkeys before name matching)
  rw [loadReadHost, Declared.namedSteps, ← hlabel]
  apply Audited.follows_bind hwithin
  intro loaded after events hrun
  obtain ⟨hroutes, rfl⟩ := Audited.run_within_eq_ok hrun
  have hname : loaded.2.host.name = name := (loadRoutes_continues hroutes).name
  have hcount := (Construction.countEach_loadRoute_built hroutes).1
  have hinstall := install_follows loaded.2.host (before.withRegistry loaded.2.registry)
  rw [hname] at hinstall
  apply Audited.follows_bind hinstall
  intro position last more _
  rw [hcount]
  exact ⟨rfl, rfl⟩

theorem loadHost_follows {record : Record} (hkeys : Table.hasDistinctKeys record.table = true)
    (before : Server) :
    ((loadHost record).run before).Follows
      (Declared.hostSteps record.label before.shell.uuid before.names before.registry
        record.table) := by
  rw [loadHost_eq, Declared.hostSteps]
  apply Audited.follows_bind (Audited.follows_ofExcept (failure?_readHost record) before)
  intro fields after events hrun
  rw [Audited.run_ofExcept] at hrun
  obtain ⟨hread, rfl, -⟩ := Outcome.mk.inj hrun
  obtain ⟨name, matching, routes⟩ := fields
  obtain ⟨hname, hmatching, hentries, hlabel⟩ := readHost_eq_ok hread
  rw [hname, hmatching, hentries]
  exact loadReadHost_follows (Declared.nodup_keys_of_entries? hkeys hentries) hlabel before

theorem loadItem_follows {record : Record} {position : Nat} {element : Value}
    (hkeys : element.hasDistinctKeys = true) (before : Server) :
    ((loadItem (record.item "hosts" position element)).run before).Follows
      (Declared.elementSteps record.label before.shell.uuid before.names before.registry position
        element) := by
  cases element with
  | table entries =>
      let item : Record := ⟨record.label ++ " " ++ Record.itemName "hosts" position, entries⟩
      have hitem : Table.hasDistinctKeys item.table = true := hkeys
      have hhost := loadHost_follows hitem before
      change ((loadItem (.ok item)).run before).Follows _
      rw [loadItem_ok_run]
      exact ⟨hhost.events, by rw [failure?_map, hhost.failure]; rfl⟩
  | _ => exact ⟨rfl, rfl⟩

theorem Built.names {before after : Server} {elements : List Value}
    (hbuilt : Built before elements after) :
    after.names = before.names ++ elements.filterMap Declared.hostName? := by
  obtain ⟨built, hhosts, hdeclared⟩ := hbuilt.hosts
  calc after.names = (before.hosts ++ built).map Host.name := congrArg (List.map Host.name) hhosts
    _ = before.names ++ built.map Host.name := List.map_append
    _ = before.names ++ elements.filterMap Declared.hostName? := by
        rw [Declared.names_of_hostIn hdeclared]

theorem countEach_loadItem_follows {record : Record} {position : Nat} {elements : List Value}
    (hkeys : Value.itemsHaveDistinctKeys elements = true) (before : Server) :
    ((Audited.countEach loadItem (itemsFrom record position elements)).run before).Follows
      (Declared.hostsSteps record.label before.shell.uuid before.names before.registry position
        elements) := by
  induction elements generalizing position before with
  | nil => exact ⟨rfl, rfl⟩
  | cons element rest ih =>
      have hfirst := Value.itemsHaveDistinctKeys_iff.mp hkeys element List.mem_cons_self
      simp only [Value.itemsHaveDistinctKeys, Bool.and_eq_true] at hkeys
      rw [itemsFrom, Declared.hostsSteps]
      apply Audited.follows_countEach_cons (loadItem_follows hfirst before)
      intro after events hrun
      have hbuilt := loadItem_built hrun
      have hnames : after.names = before.names ++ (Declared.hostName? element).toList := by
        rw [hbuilt.names]
        cases hname : Declared.hostName? element <;> simp [hname]
      have hregistry : after.registry =
          before.registry.extend (Declared.routeHandlers (Declared.routes element)) := by
        rw [hbuilt.registry, Declared.hostHandlers, List.flatMap_singleton]
      rw [← hnames, ← hregistry, ← hbuilt.shell]
      exact ih hkeys.2 after

/-! ## The whole server -/

theorem itemsHaveDistinctKeys_hosts {table : Table} (hkeys : Table.hasDistinctKeys table = true) :
    Value.itemsHaveDistinctKeys (Declared.hosts table) = true := by
  rw [Declared.hosts, Declared.items?]
  cases hlookup : table.lookup "hosts" with
  | none => rfl
  | some value =>
      have hdistinct := Table.hasDistinctKeys_of_lookup hkeys hlookup
      cases value with
      | array items => exact hdistinct
      | _ => rfl

/-- Building the hosts of a record finds out whether it lists any, takes the steps through them and
reports how many there are. -/
theorem loadHosts_follows {record : Record} (hkeys : Table.hasDistinctKeys record.table = true)
    (before : Server) :
    ((loadHosts record).run before).Follows
      (Declared.hostListSteps record.label before.shell.uuid before.names before.registry
        record.table) := by
  have hdistinct := itemsHaveDistinctKeys_hosts hkeys
  have hfailure : failure? (record.records "hosts") =
      (Declared.defect record.label "hosts" (Declared.items? record.table "hosts")).head? := by
    rw [records_hosts]
    cases Declared.items? record.table "hosts" <;> rfl
  rw [loadHosts, Declared.hostListSteps]
  apply Audited.follows_bind (Audited.follows_ofExcept hfailure before)
  intro items after events hrun
  rw [Audited.run_ofExcept, records_hosts] at hrun
  obtain ⟨hrecords, rfl, -⟩ := Outcome.mk.inj hrun
  rw [Declared.hosts] at hdistinct ⊢
  cases hitems : Declared.items? record.table "hosts" with
  | none =>
      rw [hitems] at hrecords
      cases hrecords
  | some elements =>
      rw [hitems] at hrecords hdistinct
      obtain rfl := Except.ok.inj hrecords
      rw [Option.getD_some] at hdistinct ⊢
      apply Audited.follows_bind (countEach_loadItem_follows hdistinct before)
      intro count last more hcount
      obtain ⟨rfl, hbuilt⟩ := countEach_loadItem_built hcount
      rw [Audited.run_get_bind, hbuilt.shell]
      exact ⟨rfl, rfl⟩

/-- When the hosts of a record were built into a shell, the default host is there exactly when an
element has its name, and the registry holds what the record declares. -/
theorem shell_of_loadHosts {record : Record} {shell : Shell} {server : Server} {count : Nat}
    {events : List Event} (hrun : (loadHosts record).run { shell } = ⟨.ok count, server, events⟩) :
    server.hosts.length = (Declared.hosts record.table).length ∧
      server.registry = Declared.registry (Declared.handlers record.table) ∧
      (server.defaultHost?.isNone = true ↔
        shell.defaultHostName ∉ (Declared.hosts record.table).filterMap Declared.hostName?) := by
  obtain ⟨elements, hitems, -, hbuilt⟩ := loadHosts_built hrun
  have helements : Declared.hosts record.table = elements := by
    rw [Declared.hosts, hitems, Option.getD_some]
  obtain ⟨built, hhosts, hdeclared⟩ := hbuilt.hosts
  have hnames := hbuilt.names
  obtain ⟨-, hdefault⟩ := defaultHost?_of_loadHosts (congrArg Outcome.state hrun)
  rw [helements]
  refine ⟨?_, ?_, ?_⟩
  · rw [hhosts, List.nil_append, hdeclared.length_eq]
  · rw [hbuilt.registry, Declared.handlers, helements]
    rfl
  · have hnone : server.defaultHost?.isNone = true ↔
        ¬ (server.host? shell.defaultHostName).isSome = true := by
      rw [← hdefault, Option.not_isSome_iff_eq_none, Option.isNone_iff_eq_none]
    rw [hnone, host?_isSome_iff, hnames]
    simp [names]

/-- Compiling takes the steps through the record that is found. -/
theorem compile_follows {root record : Record} {name : String}
    (hkeys : Table.hasDistinctKeys record.table = true) (hfind : find root name = .ok record) :
    ((compile root name).run ()).Follows
      (Declared.serverSteps name record.label record.table) := by
  rw [compile, Audited.run_ofExcept_bind_of_ok hfind, Declared.serverSteps]
  apply Audited.follows_bind (Audited.follows_ofExcept (Shell.failure?_ofRecord record) ())
  intro shell after events hread
  rw [Audited.run_ofExcept] at hread
  obtain ⟨hshell, -, -⟩ := Outcome.mk.inj hread
  have hdeclared : Declared.shell? record.table = some shell := by
    rw [← Shell.toOption_ofRecord, hshell, toOption_ok]
  rw [hdeclared, Option.elim_some, Declared.shellSteps]
  apply Audited.follows_unless (Uuid.isValid shell.uuid = true)
  have hhosts : ((Audited.within (fun _ : Unit => { shell }) (fun _ state => state)
      (loadHosts record)).run after).Follows
        (Declared.hostListSteps record.label shell.uuid [] {} record.table) :=
    Audited.follows_within (loadHosts_follows hkeys { shell })
  apply Audited.follows_bind hhosts
  intro loaded last more hwithin
  obtain ⟨hrun, -⟩ := Audited.run_within_eq_ok hwithin
  obtain ⟨hlength, hregistry, hdefault⟩ := shell_of_loadHosts hrun
  rw [← hlength, ← hregistry]
  by_cases hnone : loaded.2.defaultHost?.isNone = true
  · rw [Declared.defaultTrail, if_neg (hdefault.mp hnone)]
    simp only [hnone, if_true]
    exact ⟨rfl, rfl⟩
  · rw [Declared.defaultTrail, if_pos (not_not.mp (mt hdefault.mpr hnone))]
    simp only [hnone]
    exact ⟨rfl, rfl⟩

end Server

end HostRouting
