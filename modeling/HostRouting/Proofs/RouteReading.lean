import HostRouting.Host
import HostRouting.Proofs.Actions
import HostRouting.Proofs.Declared

/-!
# Reading the record of a route

Reading a backend from its record depends on nothing but the record.  Building it is reading it and
then reporting it, and where the reading succeeds it gives the backend that the record declares.
-/

namespace HostRouting

open Toml (Table Value)

/-! ## Results as options -/

section Options

variable {α β : Type}

@[simp]
theorem toOption_ok (value : α) : (Except.ok value : Except Failure α).toOption = some value := rfl

@[simp]
theorem toOption_error (failure : Failure) :
    (Except.error failure : Except Failure α).toOption = none := rfl

theorem toOption_bind (result : Except Failure α) (next : α → Except Failure β) :
    (result >>= next).toOption = result.toOption.bind fun value => (next value).toOption := by
  cases result <;> rfl

theorem toOption_read (record : Record) (field : String) (as? : Value → Option α) :
    (record.read field as?).toOption = (record.table.lookup field).bind as? := by
  unfold Record.read Record.get?
  split <;> simp [*]

theorem toOption_string (record : Record) (field : String) :
    (record.string field).toOption = Declared.text? record.table field :=
  toOption_read record field Value.string?

theorem toOption_integer (record : Record) (field : String) :
    (record.integer field).toOption = Declared.number? record.table field :=
  toOption_read record field Value.integer?

theorem toOption_flag (record : Record) (field : String) :
    (record.flag field).toOption = Declared.flag? record.table field :=
  toOption_read record field Record.flag?

end Options

/-! ## Fields that are there and fields that are not -/

namespace Record

variable {α : Type} {record : Record} {field : String} {as? : Value → Option α}

theorem read_of_some {content : α}
    (hcontent : (record.table.lookup field).bind as? = some content) :
    record.read field as? = .ok content := by
  rw [read, get?, hcontent]

theorem read_of_none (hcontent : (record.table.lookup field).bind as? = none) :
    record.read field as? = .error (record.missing field) := by
  rw [read, get?, hcontent]

theorem subtable_of_some {table : Table}
    (htable : Declared.entries? record.table field = some table) :
    record.subtable field = .ok ⟨record.label ++ " " ++ field, table⟩ := by
  rw [subtable, read_of_some htable]
  rfl

theorem subtable_of_none (htable : Declared.entries? record.table field = none) :
    record.subtable field = .error (record.missing field) := by
  rw [subtable, read_of_none htable]
  rfl

end Record

/-! ## Readings of backends

A reading gives what a record describes, or the first defect of the record. -/

def Directory.read (record : Record) : Except Failure Directory := do
  let base ← record.string "base"
  let indexFile ← record.string "index_file"
  let defaultContentType ← record.string "default_ctype"
  let cacheSeconds ← record.integer "cache_ttl"
  return { base, indexFile, defaultContentType, cacheSeconds }

def Proxy.read (record : Record) : Except Failure Proxy := do
  let address ← record.string "addr"
  let port ← record.integer "port"
  return { address, port }

def Handler.read (record : Record) : Except Failure Handler := do
  let sendSpec ← record.string "send_spec"
  let sendIdent ← record.string "send_ident"
  let recvSpec ← record.string "recv_spec"
  let recvIdent ← record.string "recv_ident"
  return { sendSpec, sendIdent, recvSpec, recvIdent, protocol := .tnet, raw := true }

namespace Backend

def read (kind : BackendKind) (record : Record) : Except Failure Backend :=
  match kind with
  | .directory => do return .directory (← Directory.read record)
  | .proxy => do return .proxy (← Proxy.read record)
  | .handler => do return .handler (← Handler.read record) none

/-- What is reported about a backend that was read from a record with a label. -/
def loaded (label : String) : Backend → List Event
  | .directory served => [.directoryLoaded label served]
  | .proxy target =>
      (if 1 ≤ target.port.toInt ∧ target.port.toInt ≤ 65535 then []
        else [.unusablePort label target.port]) ++ [.proxyLoaded label target]
  | .handler candidate _ => [.handlerLoaded label candidate]

end Backend

section Builders

variable {σ : Type}

theorem Directory.ofRecord_eq (record : Record) :
    (Directory.ofRecord record : Audited σ Directory) = do
      let directory ← .ofExcept (Directory.read record)
      Audited.emit (.directoryLoaded record.label directory)
      return directory := by
  simp only [Directory.ofRecord, Directory.read, Audited.ofExcept_bind, Audited.ofExcept_pure,
    bind_assoc, pure_bind]

theorem Proxy.ofRecord_eq (record : Record) :
    (Proxy.ofRecord record : Audited σ Proxy) = do
      let proxy ← .ofExcept (Proxy.read record)
      unless proxy.hasUsablePort do
        Audited.emit (.unusablePort record.label proxy.port)
      Audited.emit (.proxyLoaded record.label proxy)
      return proxy := by
  simp only [Proxy.ofRecord, Proxy.read, Audited.ofExcept_bind, Audited.ofExcept_pure,
    bind_assoc, pure_bind]

theorem Handler.ofRecord_eq (record : Record) :
    (Handler.ofRecord record : Audited σ Handler) = do
      let handler ← .ofExcept (Handler.read record)
      Audited.emit (.handlerLoaded record.label handler)
      return handler := by
  simp only [Handler.ofRecord, Handler.read, Audited.ofExcept_bind, Audited.ofExcept_pure,
    bind_assoc, pure_bind]

/-- Building a backend is reading it and then reporting it. -/
theorem Backend.ofRecord_run (kind : BackendKind) (record : Record) (state : σ) :
    (Backend.ofRecord kind record).run state = match Backend.read kind record with
      | .ok backend => ⟨.ok backend, state, backend.loaded record.label⟩
      | .error failure => ⟨.error failure, state, []⟩ := by
  cases kind with
  | directory =>
      simp only [Backend.ofRecord, Backend.read, Directory.ofRecord_eq, bind_assoc,
        Audited.run_ofExcept_bind]
      cases Directory.read record <;> rfl
  | proxy =>
      simp only [Backend.ofRecord, Backend.read, Proxy.ofRecord_eq, bind_assoc,
        Audited.run_ofExcept_bind]
      cases Proxy.read record with
      | error failure => rfl
      | ok proxy =>
          by_cases husable : proxy.hasUsablePort = true
          · have hport := proxy.hasUsablePort_iff.mp husable
            simp [Backend.loaded, husable, hport, Except.map]
          · have hport := mt proxy.hasUsablePort_iff.mpr husable
            simp [Audited.run_bind, Backend.loaded, husable, if_neg hport, Except.map]
  | handler =>
      simp only [Backend.ofRecord, Backend.read, Handler.ofRecord_eq, bind_assoc,
        Audited.run_ofExcept_bind]
      cases Handler.read record <;> rfl

end Builders

/-! ## What is read is what is declared -/

theorem Shell.toOption_ofRecord (record : Record) :
    (Shell.ofRecord record).toOption = Declared.shell? record.table := by
  simp only [Shell.ofRecord, toOption_bind, toOption_string, toOption_integer, toOption_flag]
  rfl

theorem Directory.toOption_read (record : Record) :
    (Directory.read record).toOption = Declared.directory? record.table := by
  simp only [Directory.read, toOption_bind, toOption_string, toOption_integer]
  rfl

theorem Proxy.toOption_read (record : Record) :
    (Proxy.read record).toOption = Declared.proxy? record.table := by
  simp only [Proxy.read, toOption_bind, toOption_string, toOption_integer]
  rfl

theorem Handler.toOption_read (record : Record) :
    (Handler.read record).toOption = Declared.handler? record.table := by
  simp only [Handler.read, toOption_bind, toOption_string]
  rfl

/-- The backend of a kind that a table describes. -/
theorem Backend.toOption_read (kind : BackendKind) (record : Record) :
    (Backend.read kind record).toOption = match kind with
      | .directory => (Declared.directory? record.table).map .directory
      | .proxy => (Declared.proxy? record.table).map .proxy
      | .handler => (Declared.handler? record.table).map fun handler => .handler handler none := by
  cases kind with
  | directory =>
      simp only [Backend.read, ← Directory.toOption_read]
      cases Directory.read record <;> rfl
  | proxy =>
      simp only [Backend.read, ← Proxy.toOption_read]
      cases Proxy.read record <;> rfl
  | handler =>
      simp only [Backend.read, ← Handler.toOption_read]
      cases Handler.read record <;> rfl

theorem Backend.kind_read {kind : BackendKind} {record : Record} {backend : Backend}
    (hread : Backend.read kind record = .ok backend) : backend.kind = kind := by
  have hdeclared := Backend.toOption_read kind record
  rw [hread, toOption_ok] at hdeclared
  cases kind with
  | directory =>
      obtain ⟨served, -, rfl⟩ := Option.map_eq_some_iff.mp hdeclared.symm
      rfl
  | proxy =>
      obtain ⟨target, -, rfl⟩ := Option.map_eq_some_iff.mp hdeclared.symm
      rfl
  | handler =>
      obtain ⟨candidate, -, rfl⟩ := Option.map_eq_some_iff.mp hdeclared.symm
      rfl

theorem BackendKind.ofName?_eq_none_iff {name : String} :
    ofName? name = none ↔ name ≠ "dir" ∧ name ≠ "proxy" ∧ name ≠ "handler" := by
  simp only [ofName?, List.find?_eq_none, List.mem_cons, List.not_mem_nil, or_false,
    forall_eq_or_imp, forall_eq, BackendKind.name, beq_iff_eq]
  constructor
  · rintro ⟨hdirectory, hproxy, hhandler⟩
    exact ⟨Ne.symm hdirectory, Ne.symm hproxy, Ne.symm hhandler⟩
  · rintro ⟨hdirectory, hproxy, hhandler⟩
    exact ⟨Ne.symm hdirectory, Ne.symm hproxy, Ne.symm hhandler⟩

/-- The backend that a record declares, of whatever kind, or the first defect of the record. -/
def Backend.readAny (record : Record) : Except Failure Backend := do
  let kind ← BackendKind.ofRecord record
  Backend.read kind record

/-- Whatever is done with a backend once it is built: building it is reading it and reporting it. -/
theorem Backend.ofRecord_bind_run {σ α : Type} (record : Record)
    (next : BackendKind → Backend → Audited σ α) (state : σ) :
    (do
      let kind ← .ofExcept (BackendKind.ofRecord record)
      let backend ← Backend.ofRecord kind record
      next kind backend : Audited σ α).run state = match Backend.readAny record with
        | .ok backend =>
            ⟨((next backend.kind backend).run state).result,
              ((next backend.kind backend).run state).state,
              backend.loaded record.label ++ ((next backend.kind backend).run state).events⟩
        | .error failure => ⟨.error failure, state, []⟩ := by
  rw [Backend.readAny, Audited.run_ofExcept_bind]
  cases BackendKind.ofRecord record with
  | error failure => rfl
  | ok kind =>
      simp only [ok_bind]
      rw [Audited.run_bind, Backend.ofRecord_run]
      cases hread : Backend.read kind record with
      | error failure => rfl
      | ok backend => simp only [Backend.kind_read hread]

theorem Backend.toOption_readAny (record : Record) :
    (Backend.readAny record).toOption = Declared.backend? (.table record.table) := by
  simp only [Backend.readAny, toOption_bind, BackendKind.ofRecord, toOption_string,
    Declared.backend?, Value.table?, Option.bind_eq_bind, Option.bind_some]
  cases Declared.text? record.table "type" with
  | none => rfl
  | some name =>
      by_cases hdirectory : name = "dir"
      · subst name
        exact Backend.toOption_read .directory record
      by_cases hproxy : name = "proxy"
      · subst name
        exact Backend.toOption_read .proxy record
      by_cases hhandler : name = "handler"
      · subst name
        exact Backend.toOption_read .handler record
      rw [Option.bind_some,
        BackendKind.ofName?_eq_none_iff.mpr ⟨hdirectory, hproxy, hhandler⟩]
      simp

/-- The backend that the value of a route describes, or the first defect of the value. -/
def readRoute (host : String) (routes : Record) (entry : String × Value) :
    Except Failure Backend :=
  match entry.2.table? with
  | none => .error (routes.missing entry.1)
  | some table => Backend.readAny ⟨Construction.routeLabel host entry.1, table⟩

theorem readRoute_table (host path : String) (routes : Record) (entries : Toml.Table) :
    readRoute host routes (path, .table entries) =
      Backend.readAny ⟨Construction.routeLabel host path, entries⟩ := rfl

theorem toOption_readRoute (host : String) (routes : Record) (entry : String × Value) :
    (readRoute host routes entry).toOption = Declared.backend? entry.2 := by
  obtain ⟨path, value⟩ := entry
  cases value with
  | table entries => exact Backend.toOption_readAny _
  | _ => rfl

theorem backend?_of_readRoute {host : String} {routes : Record} {entry : String × Value}
    {candidate : Backend} (hread : readRoute host routes entry = .ok candidate) :
    Declared.backend? entry.2 = some candidate := by
  rw [← toOption_readRoute, hread, toOption_ok]

end HostRouting
