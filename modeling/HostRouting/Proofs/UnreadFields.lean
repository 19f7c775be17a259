import HostRouting.Proofs.CompiledServer

/-!
# What is not read has no influence

Compiling looks up fields by name and walks three lists: the servers up to the one that is asked
for, its hosts, and the routes of each host.  Two documents that agree on these fields and lists
compile to the same outcome, the failure and the events included, whatever else stands in them, and
in whatever order.

Agreement goes down the nesting of a document, one relation for each kind of record.  The action
that builds from a record depends on nothing but what its relation compares, so the actions of two
records that agree are equal.
-/

namespace HostRouting

open Toml (Table Value)

/-! ## Agreement -/

def BackendKind.fields : BackendKind → List String
  | .directory => ["base", "index_file", "default_ctype", "cache_ttl"]
  | .proxy => ["addr", "port"]
  | .handler => ["send_spec", "send_ident", "recv_spec", "recv_ident"]

namespace Declared

def kind? (table : Table) : Option BackendKind :=
  (text? table "type").bind BackendKind.ofName?

/-- Two tables hold the same in some fields, or nothing in both. -/
def AgreeOn (fields : List String) (left right : Table) : Prop :=
  ∀ field ∈ fields, left.lookup field = right.lookup field

/-- Two tables declare the same backend: they have the same type, and agree on the fields that a
backend of this type has. -/
structure RouteAgrees (left right : Table) : Prop where
  type : AgreeOn ["type"] left right
  fields : ∀ kind, kind? left = some kind → AgreeOn kind.fields left right

/-- Two entries of tables of routes have the same path, and both or none of them is a table. -/
structure EntryAgrees (left right : String × Value) : Prop where
  path : left.1 = right.1
  tables : Option.Rel RouteAgrees left.2.table? right.2.table?

/-- Two tables declare the same host: they agree on its two texts, and entry by entry on its
routes. -/
structure HostAgrees (left right : Table) : Prop where
  fields : AgreeOn ["name", "matching"] left right
  routes : Option.Rel (List.Forall₂ EntryAgrees) (entries? left "routes")
    (entries? right "routes")

/-- Two elements of `hosts` are tables of the same host, or neither of them is a table. -/
def ElementAgrees (left right : Value) : Prop :=
  Option.Rel HostAgrees left.table? right.table?

def shellFields : List String :=
  ["uuid", "default_host", "bind_addr", "port", "access_log", "error_log", "pid_file", "use_ssl"]

/-- Two tables declare the same server: they agree on its shell, and element by element on its
hosts. -/
structure ServerAgrees (left right : Table) : Prop where
  shell : AgreeOn shellFields left right
  hosts : Option.Rel (List.Forall₂ ElementAgrees) (items? left "hosts") (items? right "hosts")

/-- Two lists of servers agree up to the first one with a name: those before it are tables with the
same other names, and nothing is said about those behind it. -/
inductive ServersAgree (name : String) : List Value → List Value → Prop
  | found {left right : Table} (hleft : text? left "name" = some name)
      (hright : text? right "name" = some name) (hserver : ServerAgrees left right)
      (lefts rights : List Value) :
      ServersAgree name (.table left :: lefts) (.table right :: rights)
  | earlier {left right : Table} {other : String} (hother : other ≠ name)
      (hleft : text? left "name" = some other) (hright : text? right "name" = some other)
      {lefts rights : List Value} (hrest : ServersAgree name lefts rights) :
      ServersAgree name (.table left :: lefts) (.table right :: rights)
  | exhausted : ServersAgree name [] []

end Declared

/-- Where options are related, both or none of them hold something. -/
theorem none_or_some_of_rel {α β : Type} {relation : α → β → Prop} {left : Option α}
    {right : Option β} (hrelated : Option.Rel relation left right) :
    (left = none ∧ right = none) ∨
      ∃ first second, left = some first ∧ right = some second ∧ relation first second := by
  cases hrelated with
  | none => exact Or.inl ⟨rfl, rfl⟩
  | some hrelation => exact Or.inr ⟨_, _, rfl, rfl, hrelation⟩

/-! ## Reading fields -/

section Fields

variable {left right : Table}

/-- Reading a field that two tables agree on gives the same, a failure included. -/
theorem Declared.AgreeOn.read {fields : List String} (hagree : Declared.AgreeOn fields left right)
    {field : String} (hmem : field ∈ fields) (label : String) {α : Type}
    (as? : Value → Option α) :
    (Record.mk label left).read field as? = (Record.mk label right).read field as? := by
  rw [Record.read, Record.read, Record.get?, Record.get?, hagree field hmem]
  rfl

theorem Shell.ofRecord_congr (hagree : Declared.AgreeOn Declared.shellFields left right)
    (label : String) : Shell.ofRecord ⟨label, left⟩ = Shell.ofRecord ⟨label, right⟩ := by
  simp (disch := decide) only [Shell.ofRecord, Record.string, Record.integer, Record.flag,
    hagree.read]

theorem Backend.read_congr {kind : BackendKind}
    (hagree : Declared.AgreeOn kind.fields left right) (label : String) :
    Backend.read kind ⟨label, left⟩ = Backend.read kind ⟨label, right⟩ := by
  cases kind with
  | directory =>
      simp (disch := decide) only [Backend.read, Directory.read, Record.string, Record.integer,
        hagree.read]
  | proxy =>
      simp (disch := decide) only [Backend.read, Proxy.read, Record.string, Record.integer,
        hagree.read]
  | handler =>
      simp (disch := decide) only [Backend.read, Handler.read, Record.string, hagree.read]

end Fields

/-! ## Routes -/

theorem BackendKind.toOption_ofRecord (record : Record) :
    (BackendKind.ofRecord record).toOption = Declared.kind? record.table := by
  rw [BackendKind.ofRecord, toOption_bind, toOption_string, Declared.kind?]
  congr 1
  funext name
  cases BackendKind.ofName? name <;> rfl

theorem Declared.RouteAgrees.readAny_eq {left right : Table} (hroute : RouteAgrees left right)
    (label : String) : Backend.readAny ⟨label, left⟩ = Backend.readAny ⟨label, right⟩ := by
  have htype : BackendKind.ofRecord ⟨label, left⟩ = BackendKind.ofRecord ⟨label, right⟩ := by
    simp (disch := decide) only [BackendKind.ofRecord, Record.string, hroute.type.read]
  rw [Backend.readAny, Backend.readAny, ← htype]
  cases hkind : BackendKind.ofRecord ⟨label, left⟩ with
  | error failure => rfl
  | ok kind =>
      have hdeclared : Declared.kind? left = some kind := by
        rw [← BackendKind.toOption_ofRecord ⟨label, left⟩, hkind, toOption_ok]
      exact Backend.read_congr (hroute.fields kind hdeclared) label

theorem Declared.EntryAgrees.readRoute_eq {left right : String × Value}
    (hentry : EntryAgrees left right) (host : String) {routes others : Record}
    (hlabel : routes.label = others.label) :
    readRoute host routes left = readRoute host others right := by
  rw [readRoute, readRoute, hentry.path]
  obtain ⟨hleft, hright⟩ | ⟨lefts, rights, hleft, hright, hroute⟩ :=
    none_or_some_of_rel hentry.tables
  · rw [hleft, hright, Record.missing, Record.missing, hlabel]
  · rw [hleft, hright]
    exact hroute.readAny_eq _

namespace Construction

theorem loadRoute_congr {left right : String × Value} (hentry : Declared.EntryAgrees left right)
    {routes others : Record} (hlabel : routes.label = others.label) :
    loadRoute routes left = loadRoute others right := by
  funext before
  change (loadRoute routes left).run before = (loadRoute others right).run before
  rw [loadRoute_run, loadRoute_run, hentry.readRoute_eq before.host.name hlabel, hentry.path]

end Construction

theorem Construction.loadRoutes_congr {lefts rights : Table}
    (hentries : List.Forall₂ Declared.EntryAgrees lefts rights) (label : String) :
    loadRoutes ⟨label, lefts⟩ = loadRoutes ⟨label, rights⟩ :=
  Audited.countEach_congr (hentries.imp fun _ _ hentry => loadRoute_congr hentry rfl)

/-! ## Hosts -/

namespace Server

/-- Building a host from fields that were read depends on its routes through their entries. -/
theorem loadReadHost_congr {lefts rights : Table}
    (hentries : List.Forall₂ Declared.EntryAgrees lefts rights) (name matching label : String) :
    loadReadHost name matching ⟨label, lefts⟩ = loadReadHost name matching ⟨label, rights⟩ := by
  rw [loadReadHost, loadReadHost, Construction.loadRoutes_congr hentries]

theorem loadHost_congr {left right : Table} (hhost : Declared.HostAgrees left right)
    (label : String) : loadHost ⟨label, left⟩ = loadHost ⟨label, right⟩ := by
  rw [loadHost_eq, loadHost_eq]
  simp (disch := decide) only [readHost, Record.string, hhost.fields.read, Audited.ofExcept_bind,
    Audited.ofExcept_pure, bind_assoc, pure_bind]
  refine bind_congr fun name => bind_congr fun matching => ?_
  obtain ⟨hleft, hright⟩ | ⟨lefts, rights, hleft, hright, hentries⟩ :=
    none_or_some_of_rel hhost.routes
  · rw [Record.subtable_of_none hleft, Record.subtable_of_none hright]
    rfl
  · rw [Record.subtable_of_some hleft, Record.subtable_of_some hright]
    exact loadReadHost_congr hentries name matching _

theorem loadItem_congr {left right : Value} (helement : Declared.ElementAgrees left right)
    {record other : Record} (hlabel : record.label = other.label) (field : String)
    (position : Nat) :
    loadItem (record.item field position left) = loadItem (other.item field position right) := by
  rw [Record.item, Record.item, ← hlabel]
  obtain ⟨hleft, hright⟩ | ⟨lefts, rights, hleft, hright, hhost⟩ := none_or_some_of_rel helement
  · rw [hleft, hright, Record.missing, Record.missing, hlabel]
  · rw [hleft, hright]
    change (loadHost _ >>= fun _ => pure ()) = (loadHost _ >>= fun _ => pure ())
    rw [loadHost_congr hhost]

theorem forall₂_loadItem {lefts rights : List Value}
    (helements : List.Forall₂ Declared.ElementAgrees lefts rights) (record other : Record)
    (hlabel : record.label = other.label) (position : Nat) :
    List.Forall₂ (fun left right => loadItem left = loadItem right)
      (itemsFrom record position lefts) (itemsFrom other position rights) := by
  induction helements generalizing position with
  | nil => exact .nil
  | cons hhead _ ih =>
      exact .cons (loadItem_congr hhead hlabel "hosts" position) (ih (position + 1))

theorem loadHosts_congr {left right : Table} (hserver : Declared.ServerAgrees left right)
    (label : String) : loadHosts ⟨label, left⟩ = loadHosts ⟨label, right⟩ := by
  funext before
  change (loadHosts _).run before = (loadHosts _).run before
  obtain ⟨hleft, hright⟩ | ⟨lefts, rights, hleft, hright, helements⟩ :=
    none_or_some_of_rel hserver.hosts
  · rw [loadHosts_run_of_none hleft, loadHosts_run_of_none hright]
    rfl
  · have hitems := forall₂_loadItem helements ⟨label, left⟩ ⟨label, right⟩ rfl 0
    rw [loadHosts_run_of_some hleft, loadHosts_run_of_some hright, Audited.countEach_congr hitems]

/-! ## Servers -/

/-- The search goes on from a table with another name. -/
theorem firstNamed_cons {table : Table} {own : String}
    (hown : Declared.text? table "name" = some own) (name label : String)
    (rest : List (Except Failure Record)) :
    firstNamed name (.ok ⟨label, table⟩ :: rest) =
      if own = name then .ok ⟨"server '" ++ name ++ "'", table⟩ else firstNamed name rest := by
  have hread : (Record.mk label table).string "name" = .ok own := Record.read_of_some hown
  rw [firstNamed, ok_bind, hread, ok_bind]
  rfl

/-- Two searches for the record of a server end alike: with the same failure, or with records of
the same label that declare the same server. -/
inductive FindsAlike : Except Failure Record → Except Failure Record → Prop
  | error (failure : Failure) : FindsAlike (.error failure) (.error failure)
  | ok (label : String) {left right : Table} (hserver : Declared.ServerAgrees left right) :
      FindsAlike (.ok ⟨label, left⟩) (.ok ⟨label, right⟩)

theorem firstNamed_alike {name : String} {lefts rights : List Value}
    (hagree : Declared.ServersAgree name lefts rights) (label : Nat → String)
    {item : Nat → Value → Except Failure Record}
    (hitem : ∀ position table, item position (.table table) = .ok ⟨label position, table⟩) :
    FindsAlike (firstNamed name (lefts.mapIdx item)) (firstNamed name (rights.mapIdx item)) := by
  induction hagree generalizing label item with
  | found hleft hright hserver lefts rights =>
      rw [List.mapIdx_cons, List.mapIdx_cons, hitem, hitem, firstNamed_cons hleft,
        firstNamed_cons hright, if_pos rfl, if_pos rfl]
      exact .ok _ hserver
  | earlier hother hleft hright hrest ih =>
      rw [List.mapIdx_cons, List.mapIdx_cons, hitem, hitem, firstNamed_cons hleft,
        firstNamed_cons hright, if_neg hother, if_neg hother]
      exact ih (fun position => label (position + 1)) fun position => hitem (position + 1)
  | exhausted => exact .error _

/-- What two documents have to agree on for the server with a name. -/
def DocumentsAgree (name : String) (left right : Table) : Prop :=
  Option.Rel (Declared.ServersAgree name) (Declared.items? left "servers")
    (Declared.items? right "servers")

theorem find_alike {name : String} {left right : Table} (hagree : DocumentsAgree name left right) :
    FindsAlike (find (.root left) name) (find (.root right) name) := by
  rw [find, find, Record.records, Record.records]
  obtain ⟨hleft, hright⟩ | ⟨lefts, rights, hleft, hright, hservers⟩ := none_or_some_of_rel hagree
  · have hreadLeft : (Record.root left).array "servers" = .error _ := Record.read_of_none hleft
    have hreadRight : (Record.root right).array "servers" = .error _ := Record.read_of_none hright
    rw [hreadLeft, hreadRight]
    exact .error _
  · have hreadLeft : (Record.root left).array "servers" = .ok lefts := Record.read_of_some hleft
    have hreadRight : (Record.root right).array "servers" = .ok rights :=
      Record.read_of_some hright
    rw [hreadLeft, hreadRight]
    exact firstNamed_alike hservers _ fun _ _ => rfl

/-- Documents compile to the same outcome, a server or a failure and the events before, when their
lists of servers agree up to the one that is asked for, and this one in what is read of it: the
fields of its shell, and for each host its name, its pattern and its routes in their order, each
route with its path, its type and the fields of its type.  Everything else has no influence. -/
theorem compile_ignores_unread {left right : Table} {name : String}
    (hagree : DocumentsAgree name left right) :
    (compile (.root left) name).run () = (compile (.root right) name).run () := by
  have hfind := find_alike hagree
  rw [compile, compile]
  generalize find (.root left) name = first at hfind ⊢
  generalize find (.root right) name = second at hfind ⊢
  cases hfind with
  | error failure => rfl
  | ok label hserver =>
      rw [Audited.run_ofExcept_bind_of_ok rfl, Audited.run_ofExcept_bind_of_ok rfl,
        Shell.ofRecord_congr hserver.shell label, loadHosts_congr hserver label]

/-! ## A document and the same one with more in it -/

def bareDocument : Table :=
  Declared.document [Declared.hostRecord "localhost"
    [("/", .table [("type", .string "proxy"), ("addr", .string "127.0.0.1"),
      ("port", .integer 8080)])]]

/-- The same server with its fields in another order, with fields that are not read in the server,
the host and the route, and with another server and settings around it. -/
def crowdedDocument : Table :=
  [("settings", .table [("limits.size", .array [])]),
    ("servers", .array [
      .table [("hosts", .array [.table [("matching", .string "localhost"), ("notes", .boolean true),
          ("routes", .table [("/", .table [("base", .string "/srv"), ("port", .integer 8080),
            ("addr", .string "127.0.0.1"), ("type", .string "proxy")])]),
          ("name", .string "localhost")]]),
        ("name", .string "main"), ("owner", .string "nobody"), ("uuid", .string "f400bf85"),
        ("default_host", .string "localhost"), ("bind_addr", .string "0.0.0.0"),
        ("use_ssl", .integer 0), ("port", .string "6767"),
        ("pid_file", .string "/run/main.pid"), ("access_log", .string "/logs/access.log"),
        ("error_log", .string "/logs/error.log")],
      .integer 7])]

theorem bareDocument_agrees : DocumentsAgree "main" bareDocument crowdedDocument := by
  refine .some (Declared.ServersAgree.found rfl rfl ⟨?_, .some (.cons (.some ⟨?_, .some
    (.cons ⟨rfl, .some ⟨?_, ?_⟩⟩ .nil)⟩) .nil)⟩ _ _)
  · iterate 8 refine List.forall_mem_cons.mpr ⟨rfl, ?_⟩
    exact List.forall_mem_nil _
  · iterate 2 refine List.forall_mem_cons.mpr ⟨rfl, ?_⟩
    exact List.forall_mem_nil _
  · exact List.forall_mem_cons.mpr ⟨rfl, List.forall_mem_nil _⟩
  · intro kind hkind
    obtain rfl : BackendKind.proxy = kind := Option.some.inj hkind
    iterate 2 refine List.forall_mem_cons.mpr ⟨rfl, ?_⟩
    exact List.forall_mem_nil _

theorem compile_ignores_unread_crowded :
    DocumentsAgree "main" bareDocument crowdedDocument ∧
      (compile (.root bareDocument) "main").run () =
        (compile (.root crowdedDocument) "main").run () :=
  ⟨bareDocument_agrees, compile_ignores_unread bareDocument_agrees⟩

end Server

end HostRouting
