import HostRouting.Proofs.CompiledServer
import HostRouting.Proofs.Utf8Texts

/-!
# The order of routes

The routes of a host stand in the order of the bytes of their paths, however they were added.  So
the table of a host is determined by its members: the order in which a document lists them leaves no
trace in it.
-/

namespace HostRouting

/-! ## Ordered tables -/

/-- Routes stand in the order of their paths, and no path comes twice. -/
def Host.Ordered (routes : List (String × Backend)) : Prop :=
  routes.Pairwise fun left right => Utf8.Precedes left.1 right.1

namespace Host

theorem ordered_insertRoute {path : String} {routes : List (String × Backend)}
    (hordered : Ordered routes) (hfresh : path ∉ routes.map Prod.fst) (backend : Backend) :
    Ordered (insertRoute path backend routes) := by
  induction routes with
  | nil => exact List.pairwise_singleton _ _
  | cons route rest ih =>
      obtain ⟨hfirst, hrest⟩ := List.pairwise_cons.mp hordered
      rw [List.map_cons, List.mem_cons, not_or] at hfresh
      obtain ⟨hne, hothers⟩ := hfresh
      rw [insertRoute]
      by_cases hbefore : Utf8.Precedes path route.1
      · rw [if_pos hbefore]
        apply List.pairwise_cons.mpr
        refine ⟨?_, hordered⟩
        intro other hmem
        rcases List.mem_cons.mp hmem with rfl | hmem
        · exact hbefore
        · exact hbefore.trans (hfirst other hmem)
      · rw [if_neg hbefore]
        apply List.pairwise_cons.mpr
        refine ⟨?_, ih hrest hothers⟩
        intro other hmem
        rcases List.mem_cons.mp ((insertRoute_perm path backend rest).mem_iff.mp hmem) with
          rfl | hmem
        · exact Utf8.precedes_of_not_precedes hne hbefore
        · exact hfirst other hmem

/-- Two ordered tables with the same members are the same. -/
theorem eq_of_ordered {left right : List (String × Backend)} (hleft : Ordered left)
    (hright : Ordered right) (hmem : ∀ route, route ∈ left ↔ route ∈ right) : left = right := by
  have hnodup : ∀ {routes : List (String × Backend)}, Ordered routes → routes.Nodup := by
    intro routes hordered
    refine List.Pairwise.imp ?_ hordered
    rintro first second hbefore rfl
    exact Utf8.not_precedes_self _ hbefore
  have hperm : left.Perm right :=
    (List.perm_ext_iff_of_nodup (hnodup hleft) (hnodup hright)).mpr hmem
  refine List.Perm.eq_of_pairwise ?_ hleft hright hperm
  intro first second _ _ hbefore hafter
  exact absurd (hbefore.trans hafter) (Utf8.not_precedes_self _)

end Host

/-! ## What keeps the order -/

theorem Construction.ordered_loadRoute {before : Construction}
    (hordered : Host.Ordered before.host.routes) (routes : Record)
    (entry : String × Toml.Value) :
    Host.Ordered ((loadRoute routes entry).run before).state.host.routes := by
  have houtcome := loadRoute_outcome routes entry before
  generalize (loadRoute routes entry).run before = outcome at houtcome ⊢
  cases houtcome with
  | unread hread => exact hordered
  | taken hread htaken => exact hordered
  | @added candidate backend hread hfresh hshares =>
      exact Host.ordered_insertRoute hordered hfresh backend

theorem Construction.ordered_loadRoutes {before : Construction}
    (hordered : Host.Ordered before.host.routes) (routes : Record) :
    Host.Ordered ((loadRoutes routes).run before).state.host.routes := by
  let kept (construction : Construction) : Prop := Host.Ordered construction.host.routes
  have hstep : ∀ entry ∈ routes.table, ∀ construction, kept construction →
      kept ((loadRoute routes entry).run construction).state :=
    fun entry _ _ hkept => ordered_loadRoute hkept routes entry
  exact Audited.countEach_preserves hstep hordered

namespace Server

def Ordered (server : Server) : Prop :=
  ∀ host ∈ server.hosts, Host.Ordered host.routes

theorem ordered_loadHost {before : Server} (hordered : before.Ordered) (record : Record) :
    ((loadHost record).run before).state.Ordered := by
  have houtcome := loadHost_outcome record before
  generalize (loadHost record).run before = outcome at houtcome ⊢
  cases houtcome with
  | unread hread => exact hordered
  | unrouted hread hroutes => exact hordered
  | taken hread hroutes htaken => exact hordered
  | @installed name matching routes count built events hread hroutes hfresh =>
      intro host hmem
      rw [withHost_hosts, List.mem_append, List.mem_singleton] at hmem
      rcases hmem with hmem | rfl
      · exact hordered host hmem
      · have hstart : Host.Ordered (before.opening name matching).host.routes := List.Pairwise.nil
        have hbuilt := Construction.ordered_loadRoutes hstart routes
        rw [hroutes] at hbuilt
        exact hbuilt

theorem ordered_loadItem {before : Server} (hordered : before.Ordered)
    (item : Except Failure Record) : ((loadItem item).run before).state.Ordered := by
  cases item with
  | error failure => exact hordered
  | ok record =>
      rw [loadItem_ok_run]
      exact ordered_loadHost hordered record

theorem ordered_loadHosts {before : Server} (hordered : before.Ordered) (record : Record) :
    ((loadHosts record).run before).state.Ordered := by
  cases hitems : Declared.items? record.table "hosts" with
  | none =>
      rw [loadHosts_run_of_none hitems]
      exact hordered
  | some elements =>
      have hstep : ∀ item ∈ itemsFrom record 0 elements, ∀ server, Ordered server →
          Ordered ((loadItem item).run server).state :=
        fun item _ _ hkept => ordered_loadItem hkept item
      have hcount := Audited.countEach_preserves hstep hordered
      rw [loadHosts_run_of_some hitems]
      rcases hrun : (Audited.countEach loadItem (itemsFrom record 0 elements)).run before with
        ⟨failure | count, after, events⟩
      · rw [hrun] at hcount
        exact hcount
      · rw [hrun] at hcount
        exact hcount

/-- The routes of a compiled server stand in order. -/
theorem ordered_of_compile {root : Record} {name : String} {server : Server}
    (hcompile : ((compile root name).run ()).result = .ok server) : server.Ordered := by
  obtain ⟨record, shell, count, events, -, -, hrun⟩ := compile_eq_ok hcompile
  have hstart : Ordered { shell } := by
    intro host hmem
    simp at hmem
  have hloaded := ordered_loadHosts hstart record
  rw [hrun] at hloaded
  exact hloaded

end Server

end HostRouting
