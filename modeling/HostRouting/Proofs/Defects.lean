import HostRouting.Proofs.RouteReading

/-!
# The defects of a document

What is wrong with the record of a server can be listed without building anything: each check
contributes a failure or nothing, and the checks stand in one fixed order.  Reading a part of a
document fails exactly when that part has a defect, and then with the first one.
-/

namespace HostRouting

open Toml (Table Value)

namespace Declared

/-- The defect of a field that cannot be read. -/
def defect {α : Type} (label field : String) : Option α → List Failure
  | some _ => []
  | none => [.missingField label field]

def shellDefects (label : String) (table : Table) : List Failure :=
  [defect label "uuid" (text? table "uuid"),
    defect label "default_host" (text? table "default_host"),
    defect label "bind_addr" (text? table "bind_addr"),
    defect label "port" (number? table "port"),
    defect label "access_log" (text? table "access_log"),
    defect label "error_log" (text? table "error_log"),
    defect label "pid_file" (text? table "pid_file"),
    defect label "use_ssl" (flag? table "use_ssl")].flatten

def fieldDefects (label : String) (table : Table) : BackendKind → List Failure
  | .directory =>
      [defect label "base" (text? table "base"),
        defect label "index_file" (text? table "index_file"),
        defect label "default_ctype" (text? table "default_ctype"),
        defect label "cache_ttl" (number? table "cache_ttl")].flatten
  | .proxy =>
      [defect label "addr" (text? table "addr"),
        defect label "port" (number? table "port")].flatten
  | .handler =>
      [defect label "send_spec" (text? table "send_spec"),
        defect label "send_ident" (text? table "send_ident"),
        defect label "recv_spec" (text? table "recv_spec"),
        defect label "recv_ident" (text? table "recv_ident")].flatten

/-- The defects of the record of a backend: first those of its type, then those of its fields. -/
def backendDefects (label : String) (table : Table) : List Failure :=
  match text? table "type" with
  | none => [.missingField label "type"]
  | some "dir" => fieldDefects label table .directory
  | some "proxy" => fieldDefects label table .proxy
  | some "handler" => fieldDefects label table .handler
  | some other => [.unknownKind label other]

def routeDefects (host label : String) (entry : String × Value) : List Failure :=
  match entry.2 with
  | .table table => backendDefects ("host '" ++ host ++ "' route '" ++ entry.1 ++ "'") table
  | _ => [.missingField label entry.1]

/-- The defects of the routes of a host, and that its name belongs to an earlier host. -/
def namedDefects (label uuid : String) (earlier : List String) (name : String) (routes : Table) :
    List Failure :=
  routes.flatMap (routeDefects name (label ++ " routes")) ++
    if name ∈ earlier then [.duplicateHost uuid name] else []

/-- The defects of an element of `hosts`: that it is no table, or else those of its fields and then,
if it has a name and routes, those that can only be told with them. -/
def hostDefects (server uuid : String) (earlier : List String) (position : Nat) :
    Value → List Failure
  | .table table =>
      let label := server ++ " " ++ Record.itemName "hosts" position
      [defect label "name" (text? table "name"),
        defect label "matching" (text? table "matching"),
        defect label "routes" (entries? table "routes")].flatten ++
        match text? table "name", entries? table "routes" with
        | some name, some routes => namedDefects label uuid earlier name routes
        | _, _ => []
  | _ => [.missingField server (Record.itemName "hosts" position)]

def hostName? : Value → Option String
  | .table table => text? table "name"
  | _ => none

/-- The defects of a row of elements, host after host, counted from a position on. -/
def hostsDefects (server uuid : String) : List String → Nat → List Value → List Failure
  | _, _, [] => []
  | earlier, position, element :: rest =>
      hostDefects server uuid earlier position element ++
        hostsDefects server uuid (earlier ++ (hostName? element).toList) (position + 1) rest

/-- The defects of the record of a server, in the order in which they count. -/
def serverDefects (label : String) (table : Table) : List Failure :=
  shellDefects label table ++ defect label "hosts" (items? table "hosts") ++
    hostsDefects label ((text? table "uuid").getD "") [] 0 (hosts table)

/-- A value of `hosts` describes a host: it is a table with a name, a pattern and a table of routes,
each of which describes a backend. -/
def DescribesHost (element : Value) : Prop :=
  ∃ table routes, element = .table table ∧ (text? table "name").isSome = true ∧
    (text? table "matching").isSome = true ∧ entries? table "routes" = some routes ∧
    ∀ path value, (path, value) ∈ routes → (backend? value).isSome = true

/-- A record has all that a server needs, and no two of its hosts have the same name. -/
structure WellFormed (table : Table) : Prop where
  uuid : (text? table "uuid").isSome = true
  defaultHost : (text? table "default_host").isSome = true
  bindAddress : (text? table "bind_addr").isSome = true
  port : (number? table "port").isSome = true
  accessLog : (text? table "access_log").isSome = true
  errorLog : (text? table "error_log").isSome = true
  pidFile : (text? table "pid_file").isSome = true
  useSsl : (flag? table "use_ssl").isSome = true
  hosts : ∃ elements, items? table "hosts" = some elements ∧
    (∀ element ∈ elements, DescribesHost element) ∧ (elements.filterMap hostName?).Nodup

end Declared

/-! ## Failures of results -/

section Failures

variable {α β : Type}

def failure? : Except Failure α → Option Failure
  | .ok _ => none
  | .error failure => some failure

@[simp]
theorem failure?_ok (value : α) : failure? (Except.ok value) = none := rfl

@[simp]
theorem failure?_error (failure : Failure) :
    failure? (Except.error failure : Except Failure α) = some failure := rfl

@[simp]
theorem failure?_map (change : α → β) (result : Except Failure α) :
    failure? (result.map change) = failure? result := by
  cases result <;> rfl

theorem failure?_eq_none_iff {result : Except Failure α} :
    failure? result = none ↔ ∃ value, result = .ok value := by
  cases result <;> simp

theorem failure?_eq_some_iff {result : Except Failure α} {failure : Failure} :
    failure? result = some failure ↔ result = .error failure := by
  cases result <;> simp

/-- What a first list starts with, a longer list starts with. -/
theorem head?_append_of_some {first : List Failure} {failure : Failure}
    (hfirst : some failure = first.head?) (rest : List Failure) :
    some failure = (first ++ rest).head? := by
  rw [List.head?_append, ← hfirst]
  rfl

/-- Two steps fail with the first defect of both, if each fails with the first of its own. -/
theorem failure?_bind {result : Except Failure α} {next : α → Except Failure β}
    {first rest : List Failure} (hresult : failure? result = first.head?)
    (hnext : ∀ value, result = .ok value → failure? (next value) = rest.head?) :
    failure? (result >>= next) = (first ++ rest).head? := by
  cases result with
  | error failure => exact head?_append_of_some hresult rest
  | ok value =>
      have hnone : first = [] := List.head?_eq_none_iff.mp hresult.symm
      rw [ok_bind, hnext value rfl, hnone, List.nil_append]

theorem failure?_read (record : Record) (field : String) (as? : Value → Option α) :
    failure? (record.read field as?) =
      (Declared.defect record.label field ((record.table.lookup field).bind as?)).head? := by
  unfold Record.read Record.get?
  split <;> simp [*, Declared.defect, Record.missing]

theorem failure?_string (record : Record) (field : String) :
    failure? (record.string field) =
      (Declared.defect record.label field (Declared.text? record.table field)).head? :=
  failure?_read record field Value.string?

theorem failure?_integer (record : Record) (field : String) :
    failure? (record.integer field) =
      (Declared.defect record.label field (Declared.number? record.table field)).head? :=
  failure?_read record field Value.integer?

theorem failure?_flag (record : Record) (field : String) :
    failure? (record.flag field) =
      (Declared.defect record.label field (Declared.flag? record.table field)).head? :=
  failure?_read record field Record.flag?

theorem failure?_subtable (record : Record) (field : String) :
    failure? (record.subtable field) =
      (Declared.defect record.label field (Declared.entries? record.table field)).head? := by
  rw [Record.subtable, failure?_map]
  exact failure?_read record field Value.table?

end Failures

/-! ## Readings fail with the first defect -/

theorem Shell.failure?_ofRecord (record : Record) :
    failure? (Shell.ofRecord record) =
      (Declared.shellDefects record.label record.table).head? := by
  refine failure?_bind (failure?_string record "uuid") fun _ _ => ?_
  refine failure?_bind (failure?_string record "default_host") fun _ _ => ?_
  refine failure?_bind (failure?_string record "bind_addr") fun _ _ => ?_
  refine failure?_bind (failure?_integer record "port") fun _ _ => ?_
  refine failure?_bind (failure?_string record "access_log") fun _ _ => ?_
  refine failure?_bind (failure?_string record "error_log") fun _ _ => ?_
  refine failure?_bind (failure?_string record "pid_file") fun _ _ => ?_
  exact failure?_bind (failure?_flag record "use_ssl") fun _ _ => rfl

theorem Backend.failure?_read (kind : BackendKind) (record : Record) :
    failure? (Backend.read kind record) =
      (Declared.fieldDefects record.label record.table kind).head? := by
  cases kind with
  | directory =>
      change failure? ((Directory.read record).map Backend.directory) = _
      rw [failure?_map]
      refine failure?_bind (failure?_string record "base") fun _ _ => ?_
      refine failure?_bind (failure?_string record "index_file") fun _ _ => ?_
      refine failure?_bind (failure?_string record "default_ctype") fun _ _ => ?_
      exact failure?_bind (failure?_integer record "cache_ttl") fun _ _ => rfl
  | proxy =>
      change failure? ((Proxy.read record).map Backend.proxy) = _
      rw [failure?_map]
      refine failure?_bind (failure?_string record "addr") fun _ _ => ?_
      exact failure?_bind (failure?_integer record "port") fun _ _ => rfl
  | handler =>
      change failure? ((Handler.read record).map fun handler => Backend.handler handler none) = _
      rw [failure?_map]
      refine failure?_bind (failure?_string record "send_spec") fun _ _ => ?_
      refine failure?_bind (failure?_string record "send_ident") fun _ _ => ?_
      refine failure?_bind (failure?_string record "recv_spec") fun _ _ => ?_
      exact failure?_bind (failure?_string record "recv_ident") fun _ _ => rfl

theorem Backend.failure?_readAny (record : Record) :
    failure? (Backend.readAny record) =
      (Declared.backendDefects record.label record.table).head? := by
  have htype := failure?_string record "type"
  have hname := toOption_string record "type"
  rw [Backend.readAny, BackendKind.ofRecord, Declared.backendDefects]
  cases hread : record.string "type" with
  | error failure =>
      rw [hread, toOption_error] at hname
      rw [hread, failure?_error, ← hname] at htype
      rw [← hname, error_bind, error_bind, failure?_error, htype]
      rfl
  | ok name =>
      rw [hread, toOption_ok] at hname
      rw [← hname, ok_bind]
      by_cases hdirectory : name = "dir"
      · subst name
        exact Backend.failure?_read .directory record
      by_cases hproxy : name = "proxy"
      · subst name
        exact Backend.failure?_read .proxy record
      by_cases hhandler : name = "handler"
      · subst name
        exact Backend.failure?_read .handler record
      rw [BackendKind.ofName?_eq_none_iff.mpr ⟨hdirectory, hproxy, hhandler⟩]
      simp [error_bind]

/-- A route that cannot be read has a defect, and the first one is its failure. -/
theorem failure?_readRoute (host : String) (routes : Record) (entry : String × Value) :
    failure? (readRoute host routes entry) =
      (Declared.routeDefects host routes.label entry).head? := by
  obtain ⟨path, value⟩ := entry
  cases value with
  | table entries => exact Backend.failure?_readAny _
  | _ => rfl

/-! ## What has no defect is well formed -/

namespace Declared

@[simp]
theorem defect_eq_nil_iff {α : Type} {label field : String} {reading : Option α} :
    defect label field reading = [] ↔ reading.isSome = true := by
  cases reading <;> simp [defect]

theorem routeDefects_eq_nil_iff (host label : String) (entry : String × Value) :
    routeDefects host label entry = [] ↔ (backend? entry.2).isSome = true := by
  have hfailure := failure?_readRoute host ⟨label, []⟩ entry
  rw [← List.head?_eq_none_iff, ← hfailure, ← toOption_readRoute host ⟨label, []⟩]
  cases readRoute host ⟨label, []⟩ entry <;> simp

theorem namedDefects_eq_nil_iff (label uuid : String) (earlier : List String) (name : String)
    (routes : Table) :
    namedDefects label uuid earlier name routes = [] ↔
      (∀ path value, (path, value) ∈ routes → (backend? value).isSome = true) ∧
        name ∉ earlier := by
  simp only [namedDefects, List.append_eq_nil_iff, List.flatMap_eq_nil_iff, Prod.forall,
    routeDefects_eq_nil_iff]
  by_cases hknown : name ∈ earlier <;> simp [hknown]

theorem hostDefects_eq_nil_iff (server uuid : String) (earlier : List String) (position : Nat)
    (element : Value) :
    hostDefects server uuid earlier position element = [] ↔
      DescribesHost element ∧ ∀ name ∈ hostName? element, name ∉ earlier := by
  cases element with
  | table table =>
      simp only [hostDefects, DescribesHost, hostName?, List.flatten_cons, List.flatten_nil,
        List.append_nil, List.append_eq_nil_iff, defect_eq_nil_iff]
      cases hname : text? table "name" with
      | none => simp [hname]
      | some name =>
          cases hroutes : entries? table "routes" with
          | none => simp [hroutes]
          | some routes => simp [hname, hroutes, namedDefects_eq_nil_iff, and_assoc]
  | _ => simp [hostDefects, DescribesHost]

theorem hostsDefects_eq_nil_iff (server uuid : String) (earlier : List String) (position : Nat)
    (elements : List Value) :
    hostsDefects server uuid earlier position elements = [] ↔
      (∀ element ∈ elements, DescribesHost element) ∧ (elements.filterMap hostName?).Nodup ∧
        ∀ name ∈ elements.filterMap hostName?, name ∉ earlier := by
  induction elements generalizing earlier position with
  | nil => simp [hostsDefects]
  | cons element rest ih =>
      rw [hostsDefects, List.append_eq_nil_iff, hostDefects_eq_nil_iff, ih]
      cases hname : hostName? element with
      | none => simp [hname, and_assoc]
      | some name =>
          simp only [List.filterMap_cons_some hname, List.forall_mem_cons, List.nodup_cons,
            List.mem_append, not_or, Option.mem_def, Option.some.injEq, Option.toList_some,
            List.mem_singleton, forall_eq']
          constructor
          · rintro ⟨⟨hhost, hfresh⟩, hrest, hnodup, hothers⟩
            exact ⟨⟨hhost, hrest⟩, ⟨fun hmem => (hothers name hmem).2 rfl, hnodup⟩, hfresh,
              fun other hmem => (hothers other hmem).1⟩
          · rintro ⟨⟨hhost, hrest⟩, ⟨hnew, hnodup⟩, hfresh, hothers⟩
            refine ⟨⟨hhost, hfresh⟩, hrest, hnodup, fun other hmem => ⟨hothers other hmem, ?_⟩⟩
            rintro rfl
            exact hnew hmem

theorem serverDefects_eq_nil_iff (label : String) (table : Table) :
    serverDefects label table = [] ↔ WellFormed table := by
  simp only [serverDefects, shellDefects, List.flatten_cons, List.flatten_nil, List.append_nil,
    List.append_eq_nil_iff, defect_eq_nil_iff, hostsDefects_eq_nil_iff, List.not_mem_nil,
    not_false_eq_true, implies_true, and_true]
  constructor
  · rintro ⟨⟨⟨huuid, hdefault, hbind, hport, haccess, herror, hpid, hssl⟩, hitems⟩, hhosts, hnames⟩
    obtain ⟨elements, helements⟩ := Option.isSome_iff_exists.mp hitems
    rw [hosts, helements, Option.getD_some] at hhosts hnames
    exact ⟨huuid, hdefault, hbind, hport, haccess, herror, hpid, hssl, elements, helements, hhosts,
      hnames⟩
  · rintro ⟨huuid, hdefault, hbind, hport, haccess, herror, hpid, hssl, elements, helements, hhosts,
      hnames⟩
    rw [hosts, helements, Option.getD_some]
    exact ⟨⟨⟨huuid, hdefault, hbind, hport, haccess, herror, hpid, hssl⟩, rfl⟩, hhosts, hnames⟩

/-! ## A taken path is no defect -/

theorem mem_defect {α : Type} {label field : String} {reading : Option α} {failure : Failure}
    (hmem : failure ∈ defect label field reading) : failure = .missingField label field := by
  cases reading with
  | none => exact List.mem_singleton.mp hmem
  | some content => cases hmem

/-- What is wrong with a backend is one of its fields or its type. -/
theorem mem_backendDefects {label : String} {table : Table} {failure : Failure}
    (hmem : failure ∈ backendDefects label table) :
    (∃ field, failure = .missingField label field) ∨
      ∃ kind, failure = .unknownKind label kind := by
  have hfields : ∀ kind, failure ∈ fieldDefects label table kind →
      ∃ field, failure = .missingField label field := by
    intro kind hfield
    cases kind <;>
      simp only [fieldDefects, List.flatten_cons, List.flatten_nil, List.append_nil,
        List.mem_append] at hfield
    · rcases hfield with hfield | hfield | hfield | hfield <;> exact ⟨_, mem_defect hfield⟩
    · rcases hfield with hfield | hfield <;> exact ⟨_, mem_defect hfield⟩
    · rcases hfield with hfield | hfield | hfield | hfield <;> exact ⟨_, mem_defect hfield⟩
  unfold backendDefects at hmem
  split at hmem
  · exact Or.inl ⟨"type", List.mem_singleton.mp hmem⟩
  · exact Or.inl (hfields .directory hmem)
  · exact Or.inl (hfields .proxy hmem)
  · exact Or.inl (hfields .handler hmem)
  · exact Or.inr ⟨_, List.mem_singleton.mp hmem⟩

/-- What is wrong with a route is a field or the type of its backend, or that it is no table. -/
theorem mem_routeDefects {host label : String} {entry : String × Value} {failure : Failure}
    (hmem : failure ∈ routeDefects host label entry) :
    ∃ place, (∃ field, failure = .missingField place field) ∨
      ∃ kind, failure = .unknownKind place kind := by
  obtain ⟨path, value⟩ := entry
  cases value with
  | table table => exact ⟨_, mem_backendDefects hmem⟩
  | _ => exact ⟨label, Or.inl ⟨path, List.mem_singleton.mp hmem⟩⟩

section TakenPaths

variable (host path : String)

@[simp]
theorem duplicateRoute_not_mem_defect {α : Type} (label field : String) (reading : Option α) :
    Failure.duplicateRoute host path ∉ defect label field reading := by
  intro hmem
  cases mem_defect hmem

theorem duplicateRoute_not_mem_routeDefects (name label : String) (entry : String × Value) :
    Failure.duplicateRoute host path ∉ routeDefects name label entry := by
  intro hmem
  obtain ⟨_, ⟨_, hother⟩ | ⟨_, hother⟩⟩ := mem_routeDefects hmem <;> cases hother

theorem duplicateRoute_not_mem_hostsDefects (server uuid : String) (earlier : List String)
    (position : Nat) (elements : List Value) :
    Failure.duplicateRoute host path ∉ hostsDefects server uuid earlier position elements := by
  induction elements generalizing earlier position with
  | nil => simp [hostsDefects]
  | cons element rest ih =>
      rw [hostsDefects, List.mem_append, not_or]
      refine ⟨?_, ih _ _⟩
      cases element with
      | table table =>
          rw [hostDefects, List.mem_append, not_or]
          refine ⟨by simp, ?_⟩
          split
          · rw [namedDefects, List.mem_append, not_or]
            constructor
            · simp [duplicateRoute_not_mem_routeDefects]
            · split <;> simp
          · simp
      | _ => simp [hostDefects]

theorem duplicateRoute_not_mem_serverDefects (label : String) (table : Table) :
    Failure.duplicateRoute host path ∉ serverDefects label table := by
  simp [serverDefects, shellDefects, duplicateRoute_not_mem_hostsDefects]

end TakenPaths

end Declared

end HostRouting
