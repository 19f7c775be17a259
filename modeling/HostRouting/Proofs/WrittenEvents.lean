import HostRouting.CommandLine.Run
import HostRouting.Proofs.Actions

/-!
# What a run writes

All events of a run are about the program, so a log level of the command line decides about each of
them by how much it matters.  What a successful run reports are three steps of its own, and then
what compiling the server reports.
-/

namespace HostRouting

/-! ## Levels -/

/-- The directive to write what the program reports if it matters enough. -/
def LogDirective.program (least : Level) : LogDirective where
  pattern := { topic := some Event.programTopic }
  threshold := some least

/-- The topic of the program is the beginning of all topics. -/
theorem Event.programTopic_isPrefixOf (event : Event) :
    Event.programTopic.toList.isPrefixOf event.topic.toList = true := by
  rw [List.isPrefixOf_iff_prefix, Event.topic, String.toList_intercalate, List.map_cons]
  cases event.area with
  | nil => exact List.prefix_refl _
  | cons part parts =>
      rw [List.map_cons, List.intercalate_cons_cons, List.append_assoc]
      exact List.prefix_append _ _

namespace LogFilter

theorem admits_program (least : Level) (event : Event) :
    admits [.program least] event = decide (event.level.rank ≤ least.rank) := by
  have hfits : (LogDirective.program least).pattern.fits event = true := by
    simp [LogDirective.program, EventPattern.fits, Event.programTopic_isPrefixOf]
  rw [admits, decisive?, decisive?]
  simp only [hfits, if_true]
  rfl

/-- At these levels everything is written that is at least information. -/
theorem ofLevel?_eq_program {level : String} (hlevel : level ∈ ["info", "debug", "trace"]) :
    ∃ least : Level, Level.info.rank ≤ least.rank ∧ ofLevel? level = some [.program least] := by
  simp only [List.mem_cons, List.not_mem_nil, or_false] at hlevel
  rcases hlevel with rfl | rfl | rfl
  · exact ⟨.info, by decide, by decide +kernel⟩
  · exact ⟨.debug, by decide, by decide +kernel⟩
  · exact ⟨.debug, by decide, by decide +kernel⟩

end LogFilter

def Event.infoCount (events : List Event) : Nat :=
  events.countP fun event => event.level = .info

theorem Event.infoCount_append (first rest : List Event) :
    Event.infoCount (first ++ rest) = Event.infoCount first + Event.infoCount rest :=
  List.countP_append

/-- At a level that admits information, all of it is written. -/
theorem LogFilter.count_info {level : String} (hlevel : level ∈ ["info", "debug", "trace"]) :
    ∃ filter, ofLevel? level = some filter ∧
      ∀ events, filter.count .info events = Event.infoCount events := by
  obtain ⟨least, hleast, hfilter⟩ := ofLevel?_eq_program hlevel
  refine ⟨_, hfilter, fun events => ?_⟩
  apply List.countP_congr
  intro event _
  rw [admits_program]
  constructor
  · intro hwritten
    simpa using (Bool.and_eq_true_iff.mp hwritten).1
  · intro hinfo
    have hlevel : event.level = .info := by simpa using hinfo
    simp [hlevel, hleast]

/-! ## Runs -/

namespace GlobalStore

variable {map : GlobalMap}

/-- Entries are taken into a store without a word. -/
theorem countEach_addEntry_events (record : Record) (entries : List (String × Toml.Value))
    (store : GlobalStore map) :
    ((Audited.countEach (addEntry record) entries).run store).events = [] := by
  induction entries generalizing store with
  | nil => rfl
  | cons entry rest ih =>
      have hsilent : ((addEntry record entry).run store).events = [] := by
        rw [addEntry]
        cases entry.2.scalarText? with
        | none => rfl
        | some text =>
            rw [Audited.run_update]
            split <;> rfl
      rcases hrun : (addEntry record entry).run store with ⟨failure | _, after, events⟩
      · rw [hrun] at hsilent
        rw [Audited.run_countEach_of_error hrun]
        exact hsilent
      · rw [hrun] at hsilent
        rw [Audited.run_countEach_of_ok hrun, ih after, List.append_nil]
        exact hsilent

theorem load_events {root : Record} {before after : GlobalStore map} {count : Nat}
    {events : List Event} (hrun : (load root).run before = ⟨.ok count, after, events⟩) :
    events = [.mapLoaded map count] := by
  obtain ⟨record, start, looked, _, hread, hrest, rfl⟩ := Audited.run_bind_eq_ok hrun
  obtain ⟨number, last, taken, _, hcount, hlast, rfl⟩ := Audited.run_bind_eq_ok hrest
  have hsilent : taken = [] := by
    rw [← countEach_addEntry_events record record.table start, hcount]
  obtain ⟨-, -, rfl⟩ := Outcome.mk.inj hread
  cases hlast
  rw [hsilent]
  rfl

end GlobalStore

/-- Where both maps are filled, this is reported of the settings and then of the media types. -/
theorem Globals.load_events {root : Record} {before after : Globals} {events : List Event}
    (hrun : (Globals.load root).run before = ⟨.ok (), after, events⟩) :
    ∃ settings mimeTypes,
      events = [.mapLoaded .settings settings, .mapLoaded .mimeTypes mimeTypes] := by
  obtain ⟨settings, _, _, _, hsettings, hrest, rfl⟩ := Audited.run_bind_eq_ok hrun
  obtain ⟨mimeTypes, _, _, _, hmimeTypes, hlast, rfl⟩ := Audited.run_bind_eq_ok hrest
  refine ⟨settings.1, mimeTypes.1, ?_⟩
  rw [GlobalStore.load_events (Audited.run_within_eq_ok hsettings).1,
    GlobalStore.load_events (Audited.run_within_eq_ok hmimeTypes).1]
  cases hlast
  rfl

/-- A document that is read from a file is reported. -/
theorem Record.ofFile_eq_ok {σ : Type} {path : String} {content : Except FileFault String}
    {root : Record} {before after : σ} {events : List Event}
    (hrun : (Record.ofFile path content).run before = ⟨.ok root, after, events⟩) :
    ∃ text document, content = .ok text ∧ Toml.document? text = some document ∧
      root = .root document ∧ events = [.documentRead path] := by
  obtain ⟨text, _, _, _, hread, hrest, rfl⟩ := Audited.run_bind_eq_ok hrun
  cases content with
  | error fault => cases hread
  | ok content =>
      cases hread
      cases hdocument : Toml.document? text with
      | none =>
          rw [hdocument] at hrest
          cases hrest
      | some document =>
          rw [hdocument] at hrest
          cases hrest
          exact ⟨text, document, rfl, hdocument, rfl, rfl⟩

/-- A run that comes to an output has read a document and compiled the server, prints this server
in the form that is asked for, and has reported each of these steps. -/
theorem Invocation.output_eq_ok {invocation : Invocation} {content : Except FileFault String}
    {output : String} {after : Unit} {events : List Event}
    (hrun : (invocation.output content).run () = ⟨.ok output, after, events⟩) :
    ∃ text document server globals settings mimeTypes, content = .ok text ∧
      Toml.document? text = some document ∧
      ((Server.compile (.root document) invocation.server).run ()).result = .ok server ∧
      output = (if invocation.json then server.toJson.text ++ "\n" else server.summary globals) ∧
      events =
        [.compiling invocation.config invocation.server, .documentRead invocation.config,
          .mapLoaded .settings settings, .mapLoaded .mimeTypes mimeTypes] ++
        ((Server.compile (.root document) invocation.server).run ()).events := by
  rw [Invocation.output] at hrun
  obtain ⟨_, _, _, _, hstart, hstarted, rfl⟩ := Audited.run_bind_eq_ok hrun
  obtain ⟨root, _, _, _, hread, hdone, rfl⟩ := Audited.run_bind_eq_ok hstarted
  obtain ⟨globals, _, _, _, hglobals, hloaded, rfl⟩ := Audited.run_bind_eq_ok hdone
  obtain ⟨server, _, _, printed, hcompile, hprint, rfl⟩ := Audited.run_bind_eq_ok hloaded
  obtain ⟨text, document, hcontent, hdocument, rfl, rfl⟩ := Record.ofFile_eq_ok hread
  obtain ⟨settings, mimeTypes, rfl⟩ := Globals.load_events (Audited.run_within_eq_ok hglobals).1
  have hprinted : printed = [] ∧ output =
      if invocation.json then server.toJson.text ++ "\n" else server.summary globals.2 := by
    by_cases hjson : invocation.json = true
    · rw [if_pos hjson, Audited.run_pure] at hprint
      obtain ⟨hresult, -, hevents⟩ := Outcome.mk.inj hprint
      rw [if_pos hjson]
      exact ⟨hevents.symm, (Except.ok.inj hresult).symm⟩
    · rw [if_neg hjson, Audited.run_pure] at hprint
      obtain ⟨hresult, -, hevents⟩ := Outcome.mk.inj hprint
      rw [if_neg hjson]
      exact ⟨hevents.symm, (Except.ok.inj hresult).symm⟩
  refine ⟨text, document, server, globals.2, settings, mimeTypes, hcontent, hdocument, ?_,
    hprinted.2, ?_⟩
  · rw [hcompile]
  · rw [hcompile, hprinted.1, ← (Outcome.mk.inj hstart).2.2]
    simp

/-- A report without a failure is that of a run that has come to an output. -/
theorem Report.run_of_success {invocation : Invocation} {content : Except FileFault String}
    (hrun : (Report.ofRun invocation content).failure = none) :
    ∃ after, (invocation.output content).run () =
      ⟨.ok (Report.ofRun invocation content).output, after,
        (Report.ofRun invocation content).events⟩ := by
  rw [Report.ofRun] at hrun ⊢
  rcases houtcome : (invocation.output content).run () with ⟨failure | output, after, events⟩
  · rw [houtcome] at hrun
    cases hrun
  · exact ⟨after, rfl⟩

/-- A successful run has read a document and compiled the server, and has reported this. -/
theorem Report.ofRun_eq_success {invocation : Invocation} {content : Except FileFault String}
    (hrun : (Report.ofRun invocation content).failure = none) :
    ∃ text document server settings mimeTypes, content = .ok text ∧
      Toml.document? text = some document ∧
      ((Server.compile (.root document) invocation.server).run ()).result = .ok server ∧
      (Report.ofRun invocation content).events =
        [.compiling invocation.config invocation.server, .documentRead invocation.config,
          .mapLoaded .settings settings, .mapLoaded .mimeTypes mimeTypes] ++
        ((Server.compile (.root document) invocation.server).run ()).events := by
  obtain ⟨after, houtput⟩ := Report.run_of_success hrun
  obtain ⟨text, document, server, globals, settings, mimeTypes, hcontent, hdocument, hcompile, -,
    hevents⟩ := Invocation.output_eq_ok houtput
  exact ⟨text, document, server, settings, mimeTypes, hcontent, hdocument, hcompile, hevents⟩

end HostRouting
