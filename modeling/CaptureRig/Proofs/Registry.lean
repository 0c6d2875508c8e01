import CaptureRig.Proofs.Scan.Run

namespace CaptureRig

namespace Handle

variable {ρ : Type}

/-- The handles that no earlier one of the same name precedes. -/
def firsts : List (Handle ρ) → List (Handle ρ)
  | [] => []
  | h :: later => h :: (firsts later).filter fun k => k.name ≠ h.name

theorem exists_firsts_iff {handles : List (Handle ρ)} {name : String} :
    (∃ h ∈ firsts handles, h.name = name) ↔ ∃ h ∈ handles, h.name = name := by
  induction handles with
  | nil => rfl
  | cons h later ih =>
    simp only [firsts, List.mem_cons, exists_eq_or_imp, ← ih, List.mem_filter, decide_eq_true_eq]
    by_cases here : h.name = name
    · simp only [here, true_or]
    · refine or_congr_right ⟨?_, ?_⟩
      · rintro ⟨k, ⟨member, _⟩, same⟩
        exact ⟨k, member, same⟩
      · rintro ⟨k, member, rfl⟩
        exact ⟨k, ⟨member, Ne.symm here⟩, rfl⟩

theorem nodup_firsts (handles : List (Handle ρ)) : ((firsts handles).map (·.name)).Nodup := by
  induction handles with
  | nil => exact .nil
  | cons h later ih =>
    rw [firsts, List.map_cons, List.nodup_cons]
    refine ⟨fun member => ?_, ih.sublist (List.filter_sublist.map _)⟩
    obtain ⟨k, kept, same⟩ := List.mem_map.mp member
    exact of_decide_eq_true (List.mem_filter.mp kept).2 same

/-- One more handle is accepted unless there is one of its name. -/
theorem firsts_concat (handles : List (Handle ρ)) (h : Handle ρ) :
    firsts (handles ++ [h]) =
      if ∃ k ∈ handles, k.name = h.name then firsts handles else firsts handles ++ [h] := by
  induction handles with
  | nil => simp [firsts]
  | cons k later ih =>
    simp only [List.cons_append, firsts, ih, List.mem_cons, exists_eq_or_imp]
    by_cases known : ∃ k ∈ later, k.name = h.name
    · rw [if_pos known, if_pos (Or.inr known)]
    · rw [if_neg known, List.filter_append]
      by_cases here : k.name = h.name
      · rw [if_pos (Or.inl here)]
        simp [here]
      · rw [if_neg (not_or.mpr ⟨here, known⟩)]
        simp [Ne.symm here]

end Handle

namespace Registry

variable {ρ : Type}

/-- The registry of the handles that have been accepted: each list is what they declare of one kind, in order. -/
def ofAccepted (accepted : List (Handle ρ)) : Registry ρ where
  attached := accepted.map fun h => (h.name, h.capabilities)
  loggers := accepted.filterMap (·.logger)
  dumpables := accepted.filterMap fun h => h.dumpable.map fun d => (h.name, d)
  reporters := accepted.filterMap (·.reporter)
  timestampConsumers := accepted.filterMap (·.timestampConsumer)

theorem isAttached_ofAccepted {accepted : List (Handle ρ)} {name : String} :
    (ofAccepted accepted).isAttached name = true ↔ ∃ h ∈ accepted, h.name = name := by
  simp [isAttached, ofAccepted]

theorem attach_ofAccepted (accepted : List (Handle ρ)) (h : Handle ρ) :
    (ofAccepted accepted).attach h =
      if ∃ k ∈ accepted, k.name = h.name then (false, ofAccepted accepted)
      else (true, ofAccepted (accepted ++ [h])) := by
  unfold attach
  simp only [isAttached_ofAccepted]
  split
  · rfl
  · simp only [ofAccepted, List.map_append, List.filterMap_append, List.map_cons, List.map_nil, List.filterMap_cons,
      List.filterMap_nil]
    cases h.logger <;> cases h.dumpable <;> cases h.reporter <;> cases h.timestampConsumer <;> rfl

/-- The registry that some handles have been attached to in order. -/
def attachAll (handles : List (Handle ρ)) : Registry ρ := handles.foldl (fun r h => (r.attach h).2) {}

theorem attachAll_eq (handles : List (Handle ρ)) : attachAll handles = ofAccepted (Handle.firsts handles) := by
  have grow : ∀ rest before : List (Handle ρ),
      rest.foldl (fun r h => (r.attach h).2) (ofAccepted (Handle.firsts before)) =
        ofAccepted (Handle.firsts (before ++ rest)) := by
    intro rest
    induction rest with
    | nil => exact fun before => by rw [List.append_nil]; rfl
    | cons h rest ih =>
      intro before
      rw [List.foldl_cons, List.append_cons, ← ih (before ++ [h]), attach_ofAccepted, Handle.firsts_concat]
      simp only [Handle.exists_firsts_iff]
      split <;> rfl
  exact grow handles []

end Registry

/-- The handle that an event attaches. -/
def Event.attachment? {ρ κ : Type} : Event ρ κ → Option (Handle ρ)
  | .attach h => some h
  | _ => none

/-- The client that a call hands the clock to. -/
def Call.provided? {ρ δ : Type} : Call ρ δ → Option ρ
  | .provided r => some r
  | _ => none

namespace Rig

variable {ρ σ δ κ : Type} {E : Equipment ρ σ δ} {act : κ → σ → σ}

/-- The handles that have been attached in a run, in order, be they accepted or not. -/
def attachments (past : List (Rig ρ σ δ × Event ρ κ)) : List (Handle ρ) := past.filterMap (·.2.attachment?)

/-- The handles that a run leaves attached: of those of one name the first. -/
def accepted (past : List (Rig ρ σ δ × Event ρ κ)) : List (Handle ρ) := Handle.firsts (attachments past)

/-- What is attached, and the clients that the clock has been handed to, in order. -/
def wiring (g : Rig ρ σ δ) : Registry ρ × List ρ := (g.registry, g.calls.filterMap Call.provided?)

theorem wiring_of_notes {P : Call ρ δ → Prop} {g g' : Rig ρ σ δ} (notes : Notes P g g')
    (apart : ∀ c, P c → c.provided? = none) (registry : g'.registry = g.registry) : g'.wiring = g.wiring :=
  Prod.ext registry (notes.filterMap_eq apart)

theorem wiring_moveTo (target : Phase) (g : Rig ρ σ δ) : (g.moveTo target).wiring = g.wiring :=
  wiring_of_notes (moveTo_notes target g) (by rintro _ ⟨_, _, rfl⟩; rfl) (moveTo_registry target g)

theorem wiring_startAll (g : Rig ρ σ δ) : (g.startAll E).wiring = g.wiring :=
  wiring_of_notes (P := fun c => ∃ r, c = .started r) ⟨_, by rw [startAll_eq], by simp⟩ (by rintro _ ⟨_, rfl⟩; rfl)
    (startAll_registry E g)

theorem wiring_fail (target : Phase) (g : Rig ρ σ δ) : (g.fail E target).wiring = g.wiring :=
  (wiring_of_notes (stopAll_notes E _) (by rintro _ ⟨_, rfl⟩; rfl) (stopAll_registry E _)).trans (wiring_moveTo target g)

theorem wiring_showLed (led : Led) (on : Bool) (g : Rig ρ σ δ) : (g.showLed E led on).wiring = g.wiring :=
  wiring_of_notes (showLed_notes E led on g) (by rintro _ rfl; rfl) (showLed_registry E led on g)

theorem wiring_stored (dir : String) (index : Nat) (stop : Bool) (g : Rig ρ σ δ) :
    (g.stored E dir index stop).wiring = g.wiring :=
  wiring_of_notes (stored_notes E dir index stop g)
    (fun c called => by cases called <;> rfl) (stored_registry E dir index stop g)

theorem wiring_concluded (dir : String) (index : Nat) (stop done : Bool) (g : Rig ρ σ δ) :
    (g.concluded E dir index stop done).wiring = g.wiring := by
  have noted : (g.note (.committed dir index stop done)).wiring = g.wiring := by simp [wiring, Call.provided?]
  exact (wiring_showLed _ _ _).trans noted

theorem wiring_commitChunk {mode : ScanMode} {stop done : Bool} {g g' : Rig ρ σ δ}
    (run : g.commitChunk E mode stop = (done, g')) : g'.wiring = g.wiring := by
  cases commitChunk_end run with
  | unallocated => rfl
  | refused => rw [wiring_concluded, wiring_showLed]
  | unsynced => rw [wiring_concluded, wiring_stored, wiring_showLed]
  | @counted s failures h _ _ _ same =>
    have counted (h : Rig ρ σ δ) : (countCommit E s.nextChunk failures h).wiring = h.wiring := rfl
    have whole : h.wiring = g.wiring := by rw [same, wiring_concluded, counted, wiring_stored, wiring_showLed]
    exact whole

/-- Nothing within a tick attaches a client or hands over the clock. -/
theorem wiring_kept (x : Registry ρ × List ρ) : Kept E fun g : Rig ρ σ δ => g.wiring = x where
  command _ same := (wiring_moveTo _ _).trans same
  failure _ _ same := (wiring_fail _ _).trans same
  queue _ same := same
  lamp led on same := (wiring_showLed led on _).trans same
  watch _ _ same := same
  deed deed same := by
    refine Eq.trans ?_ same
    cases deed with
    | allocated =>
      refine (wiring_moveTo _ _).trans ?_
      simp [wiring, inSession, Call.provided?]
    | refused =>
      refine (wiring_fail _ _).trans ?_
      simp [wiring, Call.provided?]
    | launched => exact (wiring_moveTo _ _).trans (wiring_startAll _)
    | waited => rfl
    | filed _ _ _ done =>
      have filed := wiring_commitChunk done
      exact filed
    | dropped _ _ _ failed =>
      have tried := wiring_commitChunk failed
      exact (wiring_fail _ _).trans tried
    | ended _ done => exact (wiring_moveTo _ _).trans (wiring_commitChunk done)
    | lost _ failed => exact (wiring_fail _ _).trans (wiring_commitChunk failed)
    | armed => exact wiring_moveTo _ _
    | begun => exact (wiring_moveTo _ _).trans (wiring_startAll _)
    | expired => exact wiring_moveTo _ _

/-- An attachment is refused with nothing done, or the handle joins the lists and its client is given the clock. -/
theorem attach_eq_of_accepted {accepted : List (Handle ρ)} {g : Rig ρ σ δ}
    (registry : g.registry = .ofAccepted accepted) (h : Handle ρ) :
    g.attach E h =
      if ∃ k ∈ accepted, k.name = h.name then (false, g)
      else (true, { g with
        registry := .ofAccepted (accepted ++ [h])
        instruments := h.timestampConsumer.elim g.instruments fun r => E.provide r g.instruments
        calls := g.calls ++ (h.timestampConsumer.map .provided).toList }) := by
  unfold attach
  rw [registry, Registry.attach_ofAccepted]
  by_cases known : ∃ k ∈ accepted, k.name = h.name
  · rw [if_pos known, if_pos known]
  · rw [if_neg known, if_neg known]
    cases h.timestampConsumer with
    | none => simp
    | some r => rfl

theorem attachments_append (past : List (Rig ρ σ δ × Event ρ κ)) (g : Rig ρ σ δ) (e : Event ρ κ) :
    attachments (past ++ [(g, e)]) = attachments past ++ e.attachment?.toList := by
  rw [attachments, List.filterMap_append]
  cases e <;> rfl

/-- What does not attach a client leaves all that is attached as it is. -/
theorem wiring_happen {e : Event ρ κ} (other : e.attachment? = none) {g g' : Rig ρ σ δ}
    (now : g.happen E act e = .ok g') : g'.wiring = g.wiring := by
  cases e with
  | tick => exact (wiring_kept g.wiring).tick (happen_tick now).choose_spec rfl
  | broken => exact (wiring_kept g.wiring).work now rfl
  | command c =>
    cases now
    exact (wiring_kept (E := E) g.wiring).apply c rfl
  | attach => cases other
  | send | failure | input | storage =>
    cases now
    rfl

/-- At every point of a run what is attached is the first handle of each name, and the clock has been handed to these
handles' clients in order. -/
theorem wiring_run {params : ScanParams} {indicator : Bool} {instruments : σ} {files : Storage.Tree}
    {past : List (Rig ρ σ δ × Event ρ κ)} {g : Rig ρ σ δ}
    (run : Run E act (fresh params indicator instruments files) past g) :
    g.wiring = (.ofAccepted (accepted past), (accepted past).filterMap (·.timestampConsumer)) := by
  induction run with
  | start => rfl
  | @next past g e g' _ now ih =>
    rw [accepted, attachments_append]
    cases attaches : e.attachment? with
    | none => rw [wiring_happen attaches now, ih, Option.toList_none, List.append_nil, accepted]
    | some h =>
      cases e with
      | attach =>
        cases attaches
        cases now
        obtain ⟨registry, provided⟩ := Prod.mk.inj ih
        rw [Option.toList_some, Handle.firsts_concat, attach_eq_of_accepted registry]
        simp only [accepted, Handle.exists_firsts_iff] at provided ⊢
        by_cases known : ∃ k ∈ attachments past, k.name = h.name
        · rw [if_pos known, if_pos known]
          exact ih
        · rw [if_neg known, if_neg known, wiring, List.filterMap_append, provided, List.filterMap_append]
          cases stamps : h.timestampConsumer <;> simp [stamps, Call.provided?]
      | _ => cases attaches

/-- At every point of a run the clients listed as attached are the first handle of each name with what it declares, in
order, and each other list is what these handles declare of one kind; the clock has been handed to each consumer of
theirs once and to nobody else. One more handle is refused exactly if its name has been attached before, and then nothing
is done; otherwise its consumer is given the clock. A broadcast reaches the loggers of these handles in order and touches
nothing else. -/
theorem registry_represents {params : ScanParams} {indicator : Bool} {instruments : σ} {files : Storage.Tree}
    {past : List (Rig ρ σ δ × Event ρ κ)} {g : Rig ρ σ δ}
    (run : Run E act (fresh params indicator instruments files) past g) :
    (g.registry.attached = (accepted past).map (fun h => (h.name, h.capabilities)) ∧
      g.registry.loggers = (accepted past).filterMap (·.logger) ∧
      g.registry.dumpables = (accepted past).filterMap (fun h => h.dumpable.map fun d => (h.name, d)) ∧
      g.registry.reporters = (accepted past).filterMap (·.reporter) ∧
      g.registry.timestampConsumers = (accepted past).filterMap (·.timestampConsumer)) ∧
    g.calls.filterMap Call.provided? = (accepted past).filterMap (·.timestampConsumer) ∧
    (∀ h, ((g.attach E h).1 = false ↔ ∃ k ∈ attachments past, k.name = h.name) ∧
      ((g.attach E h).1 = false → (g.attach E h).2 = g) ∧
      ((g.attach E h).1 = true → (g.attach E h).2.instruments =
        h.timestampConsumer.elim g.instruments fun r => E.provide r g.instruments)) ∧
    g.startAll E = { g with
      instruments := ((accepted past).filterMap (·.logger)).foldl (fun i r => E.start r i) g.instruments
      calls := g.calls ++ ((accepted past).filterMap (·.logger)).map .started } ∧
    g.stopAll E = { g with
      instruments := ((accepted past).filterMap (·.logger)).foldl (fun i r => E.stop r i) g.instruments
      calls := g.calls ++ ((accepted past).filterMap (·.logger)).map .stopped } ∧
    ∀ names, g.registry.hasAll names = true ↔ ∀ name ∈ names, ∃ h ∈ accepted past, h.name = name := by
  obtain ⟨registry, provided⟩ := Prod.mk.inj (wiring_run run)
  have loggers : g.registry.loggers = (accepted past).filterMap (·.logger) := by rw [registry]; rfl
  refine ⟨by rw [registry]; exact ⟨rfl, rfl, rfl, rfl, rfl⟩, provided, fun h => ?_, ?_, ?_, fun names => ?_⟩
  · rw [attach_eq_of_accepted registry, accepted]
    simp only [Handle.exists_firsts_iff]
    split
    · rename_i known
      exact ⟨iff_of_true rfl known, fun _ => rfl, nofun⟩
    · rename_i unknown
      exact ⟨iff_of_false nofun unknown, nofun, fun _ => rfl⟩
  · rw [startAll_eq, loggers]
  · rw [stopAll_eq, loggers]
  · rw [Registry.hasAll, List.all_eq_true, registry]
    simp only [Registry.isAttached_ofAccepted]

theorem attachments_of_events {past : List (Rig ρ σ δ × Event ρ κ)} {events : List (Event ρ κ)}
    (same : past.map (·.2) = events) : attachments past = events.filterMap Event.attachment? := by
  rw [← same, List.filterMap_map]
  rfl

/-- A name that is used three times, and a client that comes late. -/
def crowdedAttachments : List (Event Instrument (Instruments → Instruments)) :=
  [.attach (.of "gnss" ⟨true, true, false, true⟩ .gnss), .attach (.of "gnss" ⟨true, false, true, true⟩ .cameras), .tick 0,
    .attach (.of "lidar" ⟨true, true, true, false⟩ .lidar), .attach (.of "gnss" {} .panel), .send .startScan,
    .tick (millis 100), .attach (.of "panel" ⟨false, false, true, false⟩ .panel)]

theorem registry_represents_crowded :
    ∃ past g, Run Instruments.equipment (fun (f : Instruments → Instruments) i => f i)
        (fresh { mandatoryClients := [] } true benchInstruments benchTree) past g ∧
      past.map (·.2) = crowdedAttachments ∧ g.control.phase = .scanning ∧
      g.registry.attached = [("gnss", ⟨true, true, false, true⟩), ("lidar", ⟨true, true, true, false⟩),
        ("panel", ⟨false, false, true, false⟩)] ∧
      g.registry.loggers = [.gnss, .lidar] ∧ g.registry.dumpables = [("gnss", .gnss), ("lidar", .lidar)] ∧
      g.registry.reporters = [.lidar, .panel] ∧ g.calls.filterMap Call.provided? = [.gnss] ∧
      (g.attach Instruments.equipment (.of "gnss" ⟨false, true, false, true⟩ .cameras)).2 = g ∧
      g.registry.hasAll ["panel", "gnss"] = true := by
  have played : (play Instruments.equipment (fun (f : Instruments → Instruments) i => f i)
      (fresh { mandatoryClients := [] } true benchInstruments benchTree) crowdedAttachments).toOption.map
        (·.control.phase) = some .scanning := by decide +kernel
  obtain ⟨g, last, phase⟩ := Option.map_eq_some_iff.mp played
  obtain ⟨past, events, run⟩ := Run.start.play (toOption_eq_some.mp last)
  have taken : accepted past = [.of "gnss" ⟨true, true, false, true⟩ .gnss, .of "lidar" ⟨true, true, true, false⟩ .lidar,
      .of "panel" ⟨false, false, true, false⟩ .panel] := by
    rw [accepted, attachments_of_events events]
    rfl
  rw [List.nil_append] at run
  obtain ⟨⟨attached, loggers, dumpables, reporters, _⟩, provided, each, _, _, all⟩ := registry_represents run
  rw [taken] at attached loggers dumpables reporters provided all
  obtain ⟨refused, untouched, _⟩ := each (.of "gnss" ⟨false, true, false, true⟩ .cameras)
  have known : ∃ k ∈ attachments past, k.name = "gnss" := by
    rw [attachments_of_events events]
    exact ⟨_, List.mem_cons_self, rfl⟩
  refine ⟨past, g, run, events, phase, attached, loggers, dumpables, reporters, provided,
    untouched (refused.mpr known), (all _).mpr ?_⟩
  simp [Handle.of]

end Rig

end CaptureRig
