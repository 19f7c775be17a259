import HostRouting.Host
import HostRouting.Proofs.DistinctKeys
import Mathlib.Data.List.Perm.Basic

/-!
# Route tables

A new route is put somewhere into the table, whatever the order that the table is kept in: the
table has the old routes and the new one, each path still leads where it led, and the new path
leads to the new backend.
-/

namespace HostRouting.Host

def paths (host : Host) : List String :=
  host.routes.map Prod.fst

theorem route?_eq_none_iff {host : Host} {path : String} :
    host.route? path = none ↔ path ∉ host.paths :=
  lookup_eq_none_iff_not_mem_keys

theorem mem_routes_of_route? {host : Host} {path : String} {backend : Backend}
    (hroute : host.route? path = some backend) : (path, backend) ∈ host.routes :=
  mem_of_lookup_eq_some hroute

theorem route?_of_mem_routes {host : Host} (hpaths : host.paths.Nodup) {path : String}
    {backend : Backend} (hmem : (path, backend) ∈ host.routes) :
    host.route? path = some backend :=
  lookup_eq_some_of_mem hpaths hmem

theorem insertRoute_perm (path : String) (backend : Backend) (routes : List (String × Backend)) :
    (insertRoute path backend routes).Perm ((path, backend) :: routes) := by
  induction routes with
  | nil => exact List.Perm.refl _
  | cons route rest ih =>
      rw [insertRoute]
      split
      · exact List.Perm.refl _
      · exact (ih.cons route).trans (List.Perm.swap (path, backend) route rest)

theorem lookup_insertRoute_self {path : String} {routes : List (String × Backend)}
    (hfresh : path ∉ routes.map Prod.fst) (backend : Backend) :
    (insertRoute path backend routes).lookup path = some backend := by
  induction routes with
  | nil => simp [insertRoute]
  | cons route rest ih =>
      rw [List.map_cons, List.mem_cons, not_or] at hfresh
      rw [insertRoute]
      split
      · simp
      · have hne : (path == route.1) = false := by
          simpa using hfresh.1
        rw [List.lookup_cons, hne]
        exact ih hfresh.2

theorem lookup_insertRoute_of_ne {path other : String} (hne : other ≠ path) (backend : Backend)
    (routes : List (String × Backend)) :
    (insertRoute path backend routes).lookup other = routes.lookup other := by
  have hbeq : (other == path) = false := by
    simpa using hne
  induction routes with
  | nil => simp [insertRoute, List.lookup_cons, hbeq]
  | cons route rest ih =>
      rw [insertRoute]
      split
      · rw [List.lookup_cons, hbeq]
      · rw [List.lookup_cons, List.lookup_cons, ih]

def withRoute (path : String) (backend : Backend) (host : Host) : Host :=
  { host with routes := insertRoute path backend host.routes }

theorem paths_withRoute_perm (path : String) (backend : Backend) (host : Host) :
    (host.withRoute path backend).paths.Perm (path :: host.paths) :=
  (insertRoute_perm path backend host.routes).map Prod.fst

theorem mem_routes_withRoute_iff {path : String} {backend : Backend} {host : Host}
    {route : String × Backend} :
    route ∈ (host.withRoute path backend).routes ↔
      route = (path, backend) ∨ route ∈ host.routes := by
  rw [withRoute, (insertRoute_perm path backend host.routes).mem_iff, List.mem_cons]

theorem route?_withRoute_self {path : String} {host : Host} (hfresh : path ∉ host.paths)
    (backend : Backend) : (host.withRoute path backend).route? path = some backend :=
  lookup_insertRoute_self hfresh backend

theorem route?_withRoute_of_ne {path other : String} (hne : other ≠ path) (backend : Backend)
    (host : Host) : (host.withRoute path backend).route? other = host.route? other :=
  lookup_insertRoute_of_ne hne backend host.routes

/-- A route is refused when its path is taken, and added otherwise. -/
theorem addRoute_of_mem {path : String} {host : Host} (htaken : path ∈ host.paths)
    (backend : Backend) :
    host.addRoute path backend = .error (.duplicateRoute host.name path) := by
  have hsome : (host.route? path).isSome = true := by
    rw [Option.isSome_iff_ne_none, ne_eq, route?_eq_none_iff, not_not]
    exact htaken
  rw [addRoute, if_pos hsome]

theorem addRoute_of_not_mem {path : String} {host : Host} (hfresh : path ∉ host.paths)
    (backend : Backend) : host.addRoute path backend = .ok (host.withRoute path backend) := by
  have hnone : ¬ (host.route? path).isSome = true := by
    rw [route?_eq_none_iff.mpr hfresh]
    exact Bool.false_ne_true
  rw [addRoute, if_neg hnone]
  rfl

end HostRouting.Host
