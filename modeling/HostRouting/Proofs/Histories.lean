import HostRouting.Proofs.HostLoading

/-!
# Histories of a server

A server starts as a shell.  Hosts are then added as they are, or built from records one at a time
or in a row, in any order, and any of these operations may fail on its way.  A history is a server
that has come about like this, together with the positions of the hosts that were built from
records.

Building a row of hosts is building them one at a time, so what one operation keeps only has to be
said about adding a host and building a host.
-/

namespace HostRouting

open Server (loadHost loadHosts loadItem)

inductive Operation where
  | addHost (host : Host)
  | loadHost (record : Record)
  | loadHosts (record : Record)

/-- A server, and the positions of those of its hosts that were built from records. -/
structure History where
  server : Server
  built : List Nat := []

namespace History

/-- A history that goes on with a server in which hosts were built: those that it did not have. -/
def build (history : History) (after : Server) : History where
  server := after
  built := history.built ++
    List.range' history.server.hosts.length
      (after.hosts.length - history.server.hosts.length)

/-- A history after one more operation.  An operation that fails leaves what it has done so far. -/
def perform (history : History) : Operation → History
  | .addHost host =>
      { history with
        server := ((Audited.update (Server.addHost host)).run history.server).state }
  | .loadHost record => history.build ((loadHost record).run history.server).state
  | .loadHosts record => history.build ((loadHosts record).run history.server).state

/-- A server that starts as a shell and goes through a row of operations. -/
def ofShell (shell : Shell) (operations : List Operation) : History :=
  operations.foldl perform { server := { shell } }

theorem ofShell_append (shell : Shell) (operations more : List Operation) :
    ofShell shell (operations ++ more) = more.foldl perform (ofShell shell operations) :=
  List.foldl_append

@[simp]
theorem build_server (history : History) (after : Server) :
    (history.build after).server = after := rfl

/-- Nothing is built as long as no host is added. -/
theorem build_of_hosts_eq {history : History} {after : Server}
    (hhosts : after.hosts = history.server.hosts) :
    history.build after = { history with server := after } := by
  simp [build, hhosts]

theorem build_withHost (history : History) (construction : Construction) :
    (history.build (history.server.withHost construction)).built =
      history.built ++ [history.server.hosts.length] := by
  simp [build]

/-- The positions of a history are those that successful calls have returned. -/
theorem perform_loadHost_built (history : History) (record : Record) :
    (history.perform (.loadHost record)).built =
      match ((loadHost record).run history.server).result with
      | .ok position => history.built ++ [position]
      | .error _ => history.built := by
  have houtcome := Server.loadHost_outcome record history.server
  rw [perform]
  generalize (loadHost record).run history.server = outcome at houtcome ⊢
  cases houtcome with
  | unread hread => rw [build_of_hosts_eq rfl]
  | unrouted hread hroutes => rw [build_of_hosts_eq (Server.withRegistry_hosts _ _)]
  | taken hread hroutes htaken => rw [build_of_hosts_eq (Server.withRegistry_hosts _ _)]
  | installed hread hroutes hfresh => rw [build_withHost]

/-- Building hosts in two goes is building them in one. -/
theorem build_build {history : History} {middle after : Server}
    (hmiddle : history.server.hosts <+: middle.hosts) (hafter : middle.hosts <+: after.hosts) :
    (history.build middle).build after = history.build after := by
  have hlength := hmiddle.length_le
  have hmore := hafter.length_le
  have hstart : middle.hosts.length =
      history.server.hosts.length + (middle.hosts.length - history.server.hosts.length) := by
    omega
  have hcount : after.hosts.length - history.server.hosts.length =
      (middle.hosts.length - history.server.hosts.length) +
        (after.hosts.length - middle.hosts.length) := by
    omega
  simp only [build, hcount, ← List.range'_append_1, List.append_assoc, ← hstart]

/-! ## A row of hosts is built one at a time -/

/-- The hosts of a row are built by as many operations as it takes to get to the first failure. -/
theorem countEach_loadItem_eq_foldl (items : List (Except Failure Record)) (history : History) :
    ∃ records : List Record,
      history.build ((Audited.countEach loadItem items).run history.server).state =
        (records.map Operation.loadHost).foldl perform history := by
  induction items generalizing history with
  | nil => exact ⟨[], build_of_hosts_eq rfl⟩
  | cons item rest ih =>
      cases item with
      | error failure =>
          rw [Audited.run_countEach_of_error (Server.loadItem_error_run failure _)]
          exact ⟨[], build_of_hosts_eq rfl⟩
      | ok record =>
          have hkeeps := Server.loadHost_keeps record history.server
          have hitem := Server.loadItem_ok_run record history.server
          rcases hrun : (loadHost record).run history.server with ⟨failure | _, after, events⟩
          · rw [hrun] at hitem
            rw [Audited.run_countEach_of_error hitem]
            refine ⟨[record], ?_⟩
            simp [perform, hrun]
          · rw [hrun] at hitem hkeeps
            rw [Audited.run_countEach_of_ok hitem]
            obtain ⟨records, hrecords⟩ := ih (history.build after)
            have hrest := Server.countEach_loadItem_keeps rest after
            refine ⟨record :: records, ?_⟩
            rw [← build_build hkeeps hrest]
            simpa [perform, hrun] using hrecords

theorem perform_loadHosts (history : History) (record : Record) :
    ∃ records : List Record,
      history.perform (.loadHosts record) =
        (records.map Operation.loadHost).foldl perform history := by
  rw [perform]
  cases hitems : Declared.items? record.table "hosts" with
  | none =>
      rw [Server.loadHosts_run_of_none hitems]
      exact ⟨[], build_of_hosts_eq rfl⟩
  | some values =>
      obtain ⟨records, hrecords⟩ :=
        countEach_loadItem_eq_foldl (Server.itemsFrom record 0 values) history
      refine ⟨records, ?_⟩
      rw [Server.loadHosts_run_of_some hitems, ← hrecords]
      rcases (Audited.countEach loadItem (Server.itemsFrom record 0 values)).run history.server
        with ⟨failure | count, after, events⟩ <;> rfl

/-- What adding a host and building a host keep, every row of operations keeps. -/
theorem foldl_perform_preserves {invariant : History → Prop}
    (hadd : ∀ history host, invariant history → invariant (history.perform (.addHost host)))
    (hload : ∀ history record, invariant history → invariant (history.perform (.loadHost record)))
    {history : History} (hstart : invariant history) (operations : List Operation) :
    invariant (operations.foldl perform history) := by
  -- A row of hosts is a row of operations of its own, so it needs an induction of its own.
  have hrow : ∀ (records : List Record) (history : History), invariant history →
      invariant ((records.map Operation.loadHost).foldl perform history) := by
    intro records
    induction records with
    | nil => exact fun _ hhistory => hhistory
    | cons record rest ih => exact fun history hhistory => ih _ (hload history record hhistory)
  induction operations generalizing history with
  | nil => exact hstart
  | cons operation rest ih =>
      apply ih
      cases operation with
      | addHost host => exact hadd history host hstart
      | loadHost record => exact hload history record hstart
      | loadHosts record =>
          obtain ⟨records, hrecords⟩ := perform_loadHosts history record
          rw [hrecords]
          exact hrow records history hstart

/-! ## What is never taken back -/

/-- A later history has all hosts of an earlier one at their positions, and those that were built
from records still count as such. -/
structure Extends (earlier later : History) : Prop where
  hosts : earlier.server.hosts <+: later.server.hosts
  built : ∀ position ∈ earlier.built, position ∈ later.built

theorem Extends.refl (history : History) : history.Extends history :=
  ⟨List.prefix_refl _, fun _ => id⟩

theorem Extends.trans {earlier middle later : History} (hmiddle : earlier.Extends middle)
    (hlater : middle.Extends later) : earlier.Extends later :=
  ⟨hmiddle.hosts.trans hlater.hosts,
    fun position hmem => hlater.built position (hmiddle.built position hmem)⟩

theorem extends_build {history : History} {after : Server}
    (hhosts : history.server.hosts <+: after.hosts) : history.Extends (history.build after) :=
  ⟨hhosts, fun _ hmem => List.mem_append_left _ hmem⟩

/-- Adding a host leaves the server as it was, or adds the host behind the others. -/
theorem perform_addHost (history : History) (host : Host) :
    history.perform (.addHost host) = history ∨
      host.name ∉ history.server.names ∧
        history.perform (.addHost host) =
          { history with
            server := { history.server with hosts := history.server.hosts ++ [host] } } := by
  simp only [perform, Audited.run_update, Server.addHost]
  by_cases htaken : (history.server.host? host.name).isSome = true
  · rw [if_pos htaken]
    exact Or.inl rfl
  · rw [if_neg htaken]
    exact Or.inr ⟨fun hmem => htaken (Server.host?_isSome_iff.mpr hmem), rfl⟩

theorem extends_foldl_perform (history : History) (operations : List Operation) :
    history.Extends (operations.foldl perform history) := by
  refine foldl_perform_preserves ?_ ?_ (Extends.refl history) operations
  · intro middle host hmiddle
    apply hmiddle.trans
    rcases perform_addHost middle host with hsame | ⟨-, hadded⟩
    · rw [hsame]
      exact Extends.refl middle
    · rw [hadded]
      exact ⟨List.prefix_append _ _, fun _ => id⟩
  · intro middle record hmiddle
    exact hmiddle.trans (extends_build (Server.loadHost_keeps record middle.server))

/-- Whatever is done to a server, its handlers stay where they are. -/
theorem foldl_perform_keeps_handlers (history : History) (operations : List Operation) :
    history.server.registry.handlers <+:
      (operations.foldl perform history).server.registry.handlers := by
  let kept (later : History) : Prop :=
    history.server.registry.handlers <+: later.server.registry.handlers
  have hstart : kept history := List.prefix_refl _
  refine foldl_perform_preserves ?_ ?_ hstart operations
  · intro later host hkept
    rcases perform_addHost later host with hsame | ⟨-, hadded⟩
    · rwa [hsame]
    · rw [hadded]
      exact hkept
  · intro later record hkept
    exact hkept.trans (Server.loadHost_keeps_handlers record later.server)

end History

end HostRouting
