import CaptureRig.Proofs.Scan.Run

namespace CaptureRig

/-- Whether a command is open in a phase. -/
def Command.isOpen (p : Phase) (c : Command) : Bool := (c.target? p).isSome

/-- Where a command leads, none is open. -/
theorem Command.closed_of_target {c : Command} {p q : Phase} (opened : c.target? p = some q) (d : Command) :
    d.isOpen q = false := by
  cases c <;> cases p <;> cases opened <;> cases d <;> rfl

namespace Rig

variable {ρ σ δ κ : Type} {E : Equipment ρ σ δ} {act : κ → σ → σ}

/-- The rig with another queue. -/
def withQueue (queue : List Command) (g : Rig ρ σ δ) : Rig ρ σ δ :=
  { g with control := { g.control with queue } }

/-- The command that the next tick applies: the first in the queue that is open. -/
def chosen (g : Rig ρ σ δ) : Option Command := g.control.queue.find? (·.isOpen g.control.phase)

/-- Apply commands one after another, whether they are open or not. -/
def applyEach (commands : List Command) (g : Rig ρ σ δ) : Rig ρ σ δ := commands.foldl (fun g c => (g.apply c).2) g

theorem apply_closed {g : Rig ρ σ δ} {c : Command} (closed : c.isOpen g.control.phase = false) :
    g.apply c = (false, g) := by
  have none : c.target? g.control.phase = none := Option.isSome_eq_false_iff.mp closed |> Option.isNone_iff_eq_none.mp
  rw [apply, none]

theorem apply_open {g : Rig ρ σ δ} {c : Command} (opened : c.isOpen g.control.phase = true) (d : Command) :
    d.isOpen (g.apply c).2.control.phase = false := by
  obtain ⟨target, leads⟩ := Option.isSome_iff_exists.mp opened
  rw [apply, leads, moveTo_control]
  exact Command.closed_of_target leads d

theorem apply_accepts (g : Rig ρ σ δ) (c : Command) : (g.apply c).1 = c.isOpen g.control.phase := by
  unfold apply Command.isOpen
  split
  all_goals
    rename_i leads
    rw [leads]
    rfl

theorem applyEach_closed {commands : List Command} {g : Rig ρ σ δ}
    (closed : ∀ c ∈ commands, c.isOpen g.control.phase = false) : g.applyEach commands = g := by
  induction commands with
  | nil => rfl
  | cons c rest ih =>
    rw [applyEach, List.foldl_cons, apply_closed (closed c List.mem_cons_self)]
    exact ih fun d member => closed d (List.mem_cons_of_mem c member)

/-- Of any commands, only the first that is open makes a difference. -/
theorem applyEach_eq (commands : List Command) (g : Rig ρ σ δ) :
    g.applyEach commands =
      match commands.find? (·.isOpen g.control.phase) with
      | some c => (g.apply c).2
      | none => g := by
  induction commands with
  | nil => rfl
  | cons c rest ih =>
    rw [List.find?_cons]
    cases opened : c.isOpen g.control.phase with
    | true => exact applyEach_closed fun d _ => apply_open opened d
    | false =>
      rw [applyEach, List.foldl_cons, apply_closed opened]
      exact ih

theorem drain_eq (g : Rig ρ σ δ) :
    g.drain =
      match g.chosen with
      | some c => ((g.withQueue []).apply c).2
      | none => g.withQueue [] :=
  applyEach_eq g.control.queue (g.withQueue [])

theorem isOpen_applyEach (commands : List Command) (c : Command) (g : Rig ρ σ δ) :
    c.isOpen (g.applyEach commands).control.phase = true ↔
      c.isOpen g.control.phase = true ∧ ∀ d ∈ commands, d.isOpen g.control.phase = false := by
  rw [applyEach_eq]
  cases first : commands.find? (·.isOpen g.control.phase) with
  | none =>
    have closed : ∀ d ∈ commands, d.isOpen g.control.phase = false := by simpa using first
    exact (and_iff_left closed).symm
  | some d =>
    have opened : d.isOpen g.control.phase = true := List.find?_some first
    simp only [apply_open opened c, Bool.false_eq_true, false_iff, not_and]
    intro _ closed
    rw [closed d (List.mem_of_find?_eq_some first)] at opened
    cases opened

theorem drain_chosen (g : Rig ρ σ δ) : (g.withQueue g.chosen.toList).drain = g.drain := by
  have same : (g.withQueue g.chosen.toList).chosen = g.chosen := by
    cases first : g.chosen with
    | none => rfl
    | some c =>
      have opened : c.isOpen g.control.phase = true := List.find?_some first
      simp [chosen, withQueue, opened]
  rw [drain_eq, drain_eq, same]
  rfl

theorem work_chosen (now : Instant) (g : Rig ρ σ δ) : (g.withQueue g.chosen.toList).work E now = g.work E now := by
  rw [work, work, drain_chosen]

theorem tick_chosen (now : Instant) (g : Rig ρ σ δ) : (g.withQueue g.chosen.toList).tick E now = g.tick E now := by
  rw [tick, tick, drain_chosen]

theorem drain_queue (g : Rig ρ σ δ) : g.drain.control.queue = [] := by
  rw [drain_eq]
  cases g.chosen with
  | none => rfl
  | some c =>
    dsimp only
    unfold apply
    split
    · rw [moveTo_control]
      rfl
    · rfl

theorem Deed.queue {now : Instant} {g g' : Rig ρ σ δ} (deed : Deed E now g g') (empty : g.control.queue = []) :
    g'.control.queue = [] := by
  obtain ⟨_, _, _, _, control⟩ := deed.control
  rw [control]
  exact empty

theorem queue_lamps : KeptByLamps E fun g : Rig ρ σ δ => g.control.queue = [] where
  lamp led on empty := by rwa [showLed_control]
  watch _ _ empty := empty

/-- No command waits for a second tick. -/
theorem work_queue {now : Instant} {g g' : Rig ρ σ δ} (run : g.work E now = .ok g') : g'.control.queue = [] := by
  refine advance_kept (I := fun g => g.control.queue = []) Deed.queue run ?_
  unfold heedFailure
  split
  · rw [fail_control]
    exact drain_queue g
  · exact drain_queue g

theorem tick_queue {now : Instant} {wait : Duration} {g g' : Rig ρ σ δ} (run : g.tick E now = .ok (wait, g')) :
    g'.control.queue = [] := by
  obtain ⟨settled, worked, leds, _⟩ := tick_eq_ok.mp run
  exact queue_lamps.updateLeds leds (work_queue worked)

theorem happen_chosen {e : Event ρ κ} (ticks : e.isTick = true) (g : Rig ρ σ δ) :
    (g.withQueue g.chosen.toList).happen E act e = g.happen E act e := by
  cases e with
  | tick now => rw [happen, happen, tick_chosen]
  | broken now => exact work_chosen now g
  | _ => cases ticks

theorem happen_queue {e : Event ρ κ} (ticks : e.isTick = true) {g g' : Rig ρ σ δ} (now : g.happen E act e = .ok g') :
    g'.control.queue = [] := by
  cases e with
  | tick => exact tick_queue (happen_tick now).choose_spec
  | broken => exact work_queue now
  | _ => cases ticks

/-- What happens in a run if only those commands are sent that a tick applies, each right before the tick. -/
def spared (past : List (Rig ρ σ δ × Event ρ κ)) : List (Event ρ κ) :=
  past.flatMap fun (g, e) =>
    match e with
    | .tick _ | .broken _ => g.chosen.toList.map .send ++ [e]
    | .send _ => []
    | _ => [e]

/-- The ticks of a run, each with the rig that it found. -/
def ticksOf (past : List (Rig ρ σ δ × Event ρ κ)) : List (Rig ρ σ δ × Event ρ κ) := past.filter (·.2.isTick)

theorem Run.spare_tick {sparing : List (Rig ρ σ δ × Event ρ κ)} {g₀ g g' : Rig ρ σ δ} {e : Event ρ κ}
    (ticks : e.isTick = true) (ran : Run E act g₀ sparing (g.withQueue [])) (now : g.happen E act e = .ok g') :
    ∃ more, Run E act g₀ (sparing ++ more) (g'.withQueue []) ∧ more.map (·.2) = g.chosen.toList.map .send ++ [e] ∧
      ticksOf more = [(g.withQueue g.chosen.toList, e)] := by
  have settled : g'.withQueue [] = g' := by rw [withQueue, ← happen_queue ticks now]
  have same : (g.withQueue g.chosen.toList).happen E act e = g.happen E act e := happen_chosen ticks g
  rw [settled]
  cases first : g.chosen with
  | none =>
    rw [first] at same
    refine ⟨[(g.withQueue [], e)], ran.next (same.trans now), rfl, ?_⟩
    simp [ticksOf, ticks]
  | some c =>
    rw [first] at same
    have sent : Run E act g₀ (sparing ++ [(g.withQueue [], .send c)]) (g.withQueue [c]) := ran.next rfl
    refine ⟨[(g.withQueue [], .send c), (g.withQueue [c], e)], ?_, rfl, ?_⟩
    · have whole := sent.next (same.trans now)
      rwa [List.append_assoc] at whole
    · have quiet : (Event.send c : Event ρ κ).isTick = false := rfl
      simp [ticksOf, ticks, quiet]

theorem withQueue_moveTo (queue : List Command) (target : Phase) (g : Rig ρ σ δ) :
    (g.withQueue queue).moveTo target = (g.moveTo target).withQueue queue := by
  by_cases there : g.control.phase = target
  · have there' : (g.withQueue queue).control.phase = target := there
    rw [moveTo, moveTo, if_pos there, if_pos there']
  · have away : ¬(g.withQueue queue).control.phase = target := there
    rw [moveTo, moveTo, if_neg there, if_neg away]
    rfl

theorem withQueue_apply (queue : List Command) (c : Command) (g : Rig ρ σ δ) :
    ((g.withQueue queue).apply c).2 = (g.apply c).2.withQueue queue := by
  have phase : (g.withQueue queue).control.phase = g.control.phase := rfl
  rw [apply, apply, phase]
  cases c.target? g.control.phase with
  | none => rfl
  | some target => exact withQueue_moveTo queue target g

theorem withQueue_attach (queue : List Command) (h : Handle ρ) (g : Rig ρ σ δ) :
    ((g.withQueue queue).attach E h).2 = (g.attach E h).2.withQueue queue := by
  have registry : (g.withQueue queue).registry = g.registry := rfl
  rw [attach, attach, registry]
  cases g.registry.attach h with
  | mk accepted registry =>
    cases accepted with
    | false => rfl
    | true => cases h.timestampConsumer <;> rfl

theorem happen_withQueue {e : Event ρ κ} (quiet : e.isTick = false) (unsent : ∀ c, e ≠ .send c) {g g' : Rig ρ σ δ}
    (now : g.happen E act e = .ok g') (queue : List Command) :
    (g.withQueue queue).happen E act e = .ok (g'.withQueue queue) := by
  cases e with
  | tick | broken => cases quiet
  | send c => exact absurd rfl (unsent c)
  | command c =>
    cases now
    exact congrArg Except.ok (withQueue_apply queue c g)
  | attach h =>
    cases now
    exact congrArg Except.ok (withQueue_attach queue h g)
  | failure | input | storage =>
    cases now
    rfl

/-- A run that is spared all commands but those that are applied goes on as the other does: only the queues differ, and
at its ticks they hold the one command, if any. -/
theorem Run.spare {past : List (Rig ρ σ δ × Event ρ κ)} {g₀ g : Rig ρ σ δ} (run : Run E act g₀ past g)
    (idle : g₀.control.queue = []) :
    ∃ sparing, Run E act g₀ sparing (g.withQueue []) ∧ sparing.map (·.2) = spared past ∧
      ticksOf sparing = (ticksOf past).map fun (h, e) => (h.withQueue h.chosen.toList, e) := by
  induction run with
  | start =>
    refine ⟨[], ?_, rfl, rfl⟩
    have same : g₀.withQueue [] = g₀ := by rw [withQueue, ← idle]
    rw [same]
    exact .start
  | @next past g e g' run now ih =>
    obtain ⟨sparing, ran, events, ticks⟩ := ih
    have goesOn : ∃ more, Run E act g₀ (sparing ++ more) (g'.withQueue []) ∧ more.map (·.2) = spared [(g, e)] ∧
        ticksOf more = (ticksOf [(g, e)]).map fun (h, e) => (h.withQueue h.chosen.toList, e) := by
      cases e with
      | tick | broken =>
        obtain ⟨more, ran, events, ticks⟩ := Run.spare_tick rfl ran now
        exact ⟨more, ran, events.trans (List.append_nil _).symm, ticks⟩
      | send c =>
        cases now
        exact ⟨[], by rwa [List.append_nil], rfl, rfl⟩
      | command | attach | failure | input | storage =>
        exact ⟨[(g.withQueue [], _)], ran.next (happen_withQueue rfl (by simp) now []), rfl, rfl⟩
    obtain ⟨more, ran, newEvents, newTicks⟩ := goesOn
    refine ⟨sparing ++ more, ran, ?_, ?_⟩
    · rw [List.map_append, events, newEvents]
      exact (List.flatMap_append ..).symm
    · rw [ticksOf, List.filter_append, ← ticksOf, ← ticksOf, ticks, newTicks, ← List.map_append]
      rw [ticksOf, ticksOf, ← List.filter_append, ← ticksOf]

/-- A drain empties the queue and does what the first command in it does that is open in the phase it finds, or nothing
if there is none; any other command is rejected in its turn and changes nothing. In every run no other command makes a
difference to anything: the run in which only the commands are sent that get applied, each right before its tick, comes
to the same rig at every tick, with the same outcome. -/
theorem commands_applied_once {params : ScanParams} {indicator : Bool} {instruments : σ} {files : Storage.Tree}
    {past : List (Rig ρ σ δ × Event ρ κ)} {g : Rig ρ σ δ}
    (run : Run E act (fresh params indicator instruments files) past g) :
    (∀ queue : List Command,
      ((g.withQueue queue).drain =
        match queue.find? (·.isOpen g.control.phase) with
        | some c => ((g.withQueue []).apply c).2
        | none => g.withQueue []) ∧
      ∀ before c after, queue = before ++ c :: after →
        let h := (g.withQueue []).applyEach before
        ((h.apply c).1 = true ↔ c.isOpen g.control.phase = true ∧ ∀ d ∈ before, d.isOpen g.control.phase = false) ∧
          ((h.apply c).1 = false → h.apply c = (false, h))) ∧
    (∃ sparing, Run E act (fresh params indicator instruments files) sparing (g.withQueue []) ∧
      sparing.map (·.2) = spared past ∧
      ticksOf sparing = (ticksOf past).map fun (h, e) => (h.withQueue h.chosen.toList, e)) ∧
    ∀ (h : Rig ρ σ δ) (e : Event ρ κ), e.isTick = true →
      (h.withQueue h.chosen.toList).happen E act e = h.happen E act e ∧
      ∀ h', h.happen E act e = .ok h' → h'.control.queue = [] := by
  refine ⟨fun queue => ⟨drain_eq (g.withQueue queue), ?_⟩, run.spare rfl, fun h e ticks =>
    ⟨happen_chosen ticks h, fun h' now => happen_queue ticks now⟩⟩
  intro before c after _
  refine ⟨?_, fun rejected => ?_⟩
  · rw [apply_accepts]
    exact isOpen_applyEach before c (g.withQueue [])
  · rw [apply_accepts] at rejected
    exact apply_closed rejected

/-- Commands of several senders that reach an idle rig at once. -/
def clash : List (Event Instrument (Instruments → Instruments)) :=
  [.tick 0, .send .stopScan, .send .triggerStopScan, .send .startScan, .send .triggerContinuousScanning,
    .tick (millis 1000)]

/-- Of a clash of commands on an idle rig, the request for a stop scan might as well have been the only one. -/
theorem commands_applied_once_clash :
    ∃ past sparing g,
      Run Instruments.equipment (fun f i => f i) (fresh { mandatoryClients := [] } true benchInstruments benchTree) past g ∧
      past.map (·.2) = clash ∧
      Run Instruments.equipment (fun f i => f i) (fresh { mandatoryClients := [] } true benchInstruments benchTree) sparing
        g ∧
      sparing.map (·.2) =
        ([.tick 0, .send .triggerStopScan, .tick (millis 1000)] : List (Event Instrument (Instruments → Instruments))) ∧
      g.control.phase = .stopScanInitialProgress := by
  let ticked (now : Instant) (g : Station) :=
    g.happen Instruments.equipment (fun (f : Instruments → Instruments) i => f i) (.tick now)
  let sent (g : Station) : Station :=
    (((g.send .stopScan).send .triggerStopScan).send .startScan).send .triggerContinuousScanning
  have played : ((ticked 0 (fresh { mandatoryClients := [] } true benchInstruments benchTree)).toOption.bind fun g =>
      (ticked (millis 1000) (sent g)).toOption.map fun g' => (g.control.phase, g.control.queue, g'.control.phase)) =
      some (.idle, [], .stopScanInitialProgress) := by decide +kernel
  obtain ⟨g₁, first, rest⟩ := Option.bind_eq_some_iff.mp played
  obtain ⟨g₂, second, seen⟩ := Option.map_eq_some_iff.mp rest
  have first := toOption_eq_some.mp first
  have second := toOption_eq_some.mp second
  obtain ⟨idle, empty, waiting⟩ : _ ∧ _ ∧ _ := by simpa only [Prod.mk.injEq] using seen
  have run := (((((Run.start.next first).next (e := .send .stopScan) rfl).next (e := .send .triggerStopScan) rfl).next
    (e := .send .startScan) rfl).next (e := .send .triggerContinuousScanning) rfl).next second
  obtain ⟨_, ⟨sparing, ran, events, _⟩, ticks⟩ := commands_applied_once run
  have settled : g₂.withQueue [] = g₂ := by rw [withQueue, ← (ticks _ _ rfl).2 _ second]
  refine ⟨_, sparing, g₂, run, rfl, settled ▸ ran, ?_, waiting⟩
  rw [events]
  simp [spared, chosen, fresh, send, idle, empty, Command.isOpen, Command.target?]

end Rig

end CaptureRig
