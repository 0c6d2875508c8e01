import CaptureRig.Proofs.Record.Recorder
import CaptureRig.Proofs.Scan.Drain
import CaptureRig.Proofs.Scan.Transition

namespace CaptureRig

namespace Phase

/-- Where the commands in a queue and a report lead to from a phase. -/
def Heeds (p q : Phase) : Prop := q = p ∨ q = .lidarError ∨ ∃ c : Command, c.target? p = some q

/-- A capture is under way, as the ticks leave it. -/
def captures : Phase → Bool
  | .scanning | .stopScanInProgress => true
  | _ => false

/-- The next thing to do is to begin a capture. -/
def begins : Phase → Bool
  | .startingScan | .stopScanInitialProgress => true
  | _ => false

theorem captures_iff {p : Phase} : p.captures = true ↔ p = .scanning ∨ p = .stopScanInProgress := by
  cases p <;> simp [captures]

theorem capture_of_resting {p : Phase} (resting : p.isTransient = false) : p.capture?.isSome = p.captures := by
  cases p <;> first | rfl | cases resting

theorem capture_of_target {c : Command} {p q : Phase} (opened : c.target? p = some q) :
    q.capture?.isSome = p.capture?.isSome := by
  cases c <;> cases p <;> cases opened <;> rfl

theorem Heeds.command {p q target : Phase} {c : Command} (heeds : p.Heeds q) (opened : c.target? q = some target) :
    p.Heeds target := by
  rcases heeds with rfl | rfl | ⟨d, led⟩
  · exact Or.inr (Or.inr ⟨c, opened⟩)
  · cases c <;> cases opened
  · have closed : (c.target? q).isSome = false := Command.closed_of_target led c
    rw [opened] at closed
    cases closed

theorem Heeds.captures {p q : Phase} (heeds : p.Heeds q) (captures : q.captures = true) : q = p := by
  rcases heeds with same | rfl | ⟨c, opened⟩
  · exact same
  · cases captures
  · cases c <;> cases p <;> cases opened <;> cases captures

theorem Heeds.begins {p q : Phase} (heeds : p.Heeds q) (begins : q.begins = true) : p.captures = false := by
  rcases heeds with rfl | rfl | ⟨c, opened⟩
  · cases q <;> first | rfl | cases begins
  · cases begins
  · cases c <;> cases p <;> cases opened <;> first | rfl | cases begins

end Phase

namespace Rig

variable {ρ σ δ κ : Type} {E : Equipment ρ σ δ} {act : κ → σ → σ}

theorem heeds_orders (p : Phase) : KeptByOrders E fun g : Rig ρ σ δ => p.Heeds g.control.phase where
  command opened heeds := by
    rw [moveTo_control]
    exact heeds.command opened
  failure _ _ _ := by
    rw [fail_control]
    exact Or.inr (Or.inl rfl)
  queue _ heeds := heeds

/-- A deed comes to a capture by beginning it or by going on with it. -/
theorem Deed.captures {now : Instant} {g g' : Rig ρ σ δ} (deed : Deed E now g g')
    (captures : g'.control.phase.captures = true) :
    g.control.phase.begins = true ∨ g'.control.phase = g.control.phase := by
  cases deed with
  | launched starting =>
    rw [starting]
    exact Or.inl rfl
  | begun waiting =>
    rw [waiting]
    exact Or.inl rfl
  | waited => exact Or.inr rfl
  | filed _ _ _ done => exact Or.inr (commitChunk_moves done).2
  | _ =>
    simp only [moveTo_control, fail_control] at captures
    cases captures

/-- A tick goes on with a capture from its own phase alone, and begins one from other phases alone. -/
theorem captured_by {now : Instant} {g h g' : Rig ρ σ δ} (readied : Readied E g h) (run : h.step E now = .ok g')
    (captures : g'.control.phase.captures = true) :
    h.control.phase.begins = !decide (g'.control.phase = g.control.phase) := by
  have heeds : g.control.phase.Heeds (g.drain.heedFailure E).control.phase :=
    (heeds_orders g.control.phase).heeded (Or.inl rfl)
  have came : h.control.phase.begins = true ∨ g'.control.phase = h.control.phase :=
    (step_deed run).elim (fun same => Or.inr (congrArg (·.control.phase) same.1)) fun deed => deed.captures captures
  cases readied with
  | heeded =>
    cases begins : (g.drain.heedFailure E).control.phase.begins with
    | true =>
      have elsewhere : g'.control.phase ≠ g.control.phase := by
        intro same
        rw [same, heeds.begins begins] at captures
        cases captures
      simp [elsewhere]
    | false =>
      have goesOn : g'.control.phase = (g.drain.heedFailure E).control.phase := by simpa [begins] using came
      have same : g'.control.phase = g.control.phase := goesOn.trans (heeds.captures (goesOn ▸ captures))
      simp [same]
  | expired =>
    rw [moveTo_control] at came
    rcases came with never | ended
    · cases never
    · rw [ended] at captures
      cases captures

end Rig

namespace Logger

variable {ρ σ δ κ : Type} [DecidableEq ρ] {E : Equipment ρ σ δ} {act : κ → σ → σ} (L : Logger E act)

/-- Whether the client is started and stopped with the others. -/
def attached (g : Rig ρ σ δ) : Bool := decide (L.client ∈ g.registry.loggers)

def logs (g : Rig ρ σ δ) : Bool := L.logging g.instruments

theorem logs_startAll (g : Rig ρ σ δ) : L.logs (g.startAll E) = (L.logs g || L.attached g) := by
  rw [logs, Rig.startAll_eq]
  exact L.logging_foldl_start g.registry.loggers g.instruments

theorem logs_stopAll (g : Rig ρ σ δ) : L.logs (g.stopAll E) = (L.logs g && !L.attached g) := by
  rw [logs, Rig.stopAll_eq]
  exact L.logging_foldl_stop g.registry.loggers g.instruments

theorem logs_moveTo (target : Phase) (g : Rig ρ σ δ) : L.logs (g.moveTo target) = L.logs g := by
  rw [logs, Rig.moveTo_instruments, logs]

theorem logs_showLed (led : Led) (on : Bool) (g : Rig ρ σ δ) : L.logs (g.showLed E led on) = L.logs g := by
  rcases Rig.showLed_instruments E led on g with unlit | lit
  · rw [logs, unlit, logs]
  · rw [logs, lit, L.logging_setLed, logs]

theorem logs_lamps (on : Bool) : Rig.KeptByLamps E fun g => L.logs g = on where
  lamp led level same := (L.logs_showLed led level _).trans same
  watch _ _ same := same

theorem attached_eq {g g' : Rig ρ σ δ} (same : g'.registry = g.registry) : L.attached g' = L.attached g := by
  rw [attached, same, attached]

theorem logs_stored (dir : String) (index : Nat) (stop : Bool) (g : Rig ρ σ δ) :
    L.logs (g.stored E dir index stop) = (L.logs g && !(stop && L.attached g)) := by
  have froze : L.logs (Rig.freezeEach E g.registry.dumpables g).2 = L.logs g :=
    L.logging_freezeEach g.registry.dumpables g
  have same : (Rig.freezeEach E g.registry.dumpables g).2.registry = g.registry := by rw [Rig.freezeEach_eq]
  rw [logs, Rig.stored, Rig.persistEach_eq]
  change L.logs (g.gathered E stop) = _
  cases stop with
  | false =>
    rw [Bool.false_and, Bool.not_false, Bool.and_true]
    exact froze
  | true =>
    change L.logs ((Rig.freezeEach E g.registry.dumpables g).2.stopAll E) = _
    rw [logs_stopAll, froze, L.attached_eq same, Bool.true_and]

theorem logs_fail (target : Phase) (g : Rig ρ σ δ) : L.logs (g.fail E target) = (L.logs g && !L.attached g) := by
  rw [Rig.fail, logs_stopAll, logs_moveTo, L.attached_eq (Rig.moveTo_registry target g)]

theorem logs_commitChunk {mode : ScanMode} {stop : Bool} {g g' : Rig ρ σ δ}
    (run : g.commitChunk E mode stop = (true, g')) : L.logs g' = (L.logs g && !(stop && L.attached g)) := by
  cases Rig.commitChunk_end run with
  | @counted s failures h _ _ _ same =>
    have counted : L.logs h = L.logs ((g.showLed E .copyData true).stored E (s.dir mode) s.nextChunk stop) := by
      rw [same, Rig.concluded, logs_showLed]
      rfl
    have ended : L.logs h = (L.logs g && !(stop && L.attached g)) := by
      rw [counted, logs_stored, logs_showLed, L.attached_eq (Rig.showLed_registry E .copyData true g)]
    exact ended

/-- The client logs during a capture if it is on, and not at all else. -/
def Agrees (on : Bool) (g : Rig ρ σ δ) : Prop :=
  L.attached g = true → L.logs g = (g.control.phase.capture?.isSome && on)

variable {L} {on : Bool}

namespace Agrees

variable {g g' : Rig ρ σ δ}

theorem of_same (agrees : L.Agrees on g) (registry : g'.registry = g.registry) (logs : L.logs g' = L.logs g)
    (capture : g'.control.phase.capture?.isSome = g.control.phase.capture?.isSome) : L.Agrees on g' := by
  intro attached
  rw [logs, capture]
  exact agrees (L.attached_eq registry ▸ attached)

theorem moveTo (agrees : L.Agrees on g) {target : Phase}
    (capture : target.capture?.isSome = g.control.phase.capture?.isSome) : L.Agrees on (g.moveTo target) :=
  agrees.of_same (Rig.moveTo_registry target g) (L.logs_moveTo target g) (by rw [Rig.moveTo_control]; exact capture)

theorem fail {target : Phase} (error : target.isError = true) : L.Agrees on (g.fail E target) := by
  intro attached
  rw [L.attached_eq (Rig.fail_registry E target g)] at attached
  rw [logs_fail, attached, Rig.fail_control, Phase.capture_of_isError error]
  exact Bool.and_false _

theorem begin {target : Phase} (capture : target.capture?.isSome = true) (h : Rig ρ σ δ)
    (registry : h.registry = g.registry) (started : L.logs h = (L.logs g || L.attached g)) :
    L.Agrees true (h.moveTo target) := by
  intro attached
  rw [L.attached_eq (Rig.moveTo_registry target h), L.attached_eq registry] at attached
  rw [logs_moveTo, started, attached, Rig.moveTo_control, capture, Bool.or_true]
  rfl

end Agrees

theorem agrees_orders : Rig.KeptByOrders E (L.Agrees on) where
  command opened agrees := agrees.moveTo (Phase.capture_of_target opened)
  failure _ _ _ := Agrees.fail rfl
  queue _ agrees := agrees

theorem agrees_lamps : Rig.KeptByLamps E (L.Agrees on) where
  lamp led level agrees :=
    agrees.of_same (Rig.showLed_registry E led level _) (L.logs_showLed led level _) (by rw [Rig.showLed_phase])
  watch _ _ agrees := agrees

section Work

variable {now : Instant} {g g' : Rig ρ σ δ}

/-- The deeds that begin a capture start every client attached. -/
theorem agrees_begun (deed : Rig.Deed E now g g') (begins : g.control.phase.begins = true) : L.Agrees true g' := by
  cases deed with
  | launched => exact Agrees.begin rfl _ (Rig.startAll_registry E g) (L.logs_startAll g)
  | begun => exact Agrees.begin rfl _ (Rig.startAll_registry E g) (L.logs_startAll g)
  | allocated phase | refused phase | waited phase | filed phase | dropped phase | armed phase | expired phase =>
    rw [phase] at begins
    cases begins
  | @ended mode _ phase | @lost mode _ phase =>
    rw [phase] at begins
    cases mode <;> cases begins

theorem Agrees.deed (agrees : L.Agrees on g) (deed : Rig.Deed E now g g') (goesOn : g.control.phase.begins = false) :
    L.Agrees on g' := by
  cases deed with
  | launched phase | begun phase =>
    rw [phase] at goesOn
    cases goesOn
  | @allocated dirs i t waiting _ granted =>
    let allocated := ({ g with instruments := i, files := t }.note (.allocated (some dirs))).inSession dirs
    have logs : L.logs allocated = L.logs g := L.logging_allocate granted
    have still : L.Agrees on allocated := agrees.of_same rfl logs rfl
    exact still.moveTo (congrArg (·.capture?.isSome) waiting).symm
  | refused | dropped | lost => exact Agrees.fail rfl
  | waited => exact agrees
  | filed _ _ _ done =>
    obtain ⟨_, _, control, registry, _⟩ := Rig.commitChunk_done done
    refine agrees.of_same registry ?_ (congrArg (·.phase.capture?.isSome) control)
    have logs := L.logs_commitChunk done
    rwa [Bool.false_and, Bool.not_false, Bool.and_true] at logs
  | ended _ done =>
    obtain ⟨_, _, _, registry, _⟩ := Rig.commitChunk_done done
    intro attached
    rw [L.attached_eq (Rig.moveTo_registry _ _), L.attached_eq registry] at attached
    rw [logs_moveTo, L.logs_commitChunk done, attached, Rig.moveTo_control]
    exact Bool.and_false _
  | armed starting =>
    exact Agrees.moveTo (g := g.timed _ _) agrees (congrArg (·.capture?.isSome) starting).symm
  | expired capturing =>
    exact agrees.moveTo (congrArg (·.capture?.isSome) capturing).symm

theorem Agrees.step (agrees : L.Agrees on g) (run : g.step E now = .ok g') :
    L.Agrees (on || g.control.phase.begins) g' := by
  rcases Rig.step_deed run with ⟨rfl, resting⟩ | deed
  · intro attached
    rw [agrees attached, Phase.capture_of_resting resting]
    cases g'.control.phase <;> simp [Phase.captures, Phase.begins]
  · cases begins : g.control.phase.begins with
    | true =>
      rw [Bool.or_true]
      exact agrees_begun deed begins
    | false =>
      rw [Bool.or_false]
      exact agrees.deed deed begins

/-- A tick that changes the phase makes the clients attached the ones that are on. -/
theorem Agrees.work (agrees : L.Agrees on g) (run : g.work E now = .ok g') :
    L.Agrees (if g'.control.phase = g.control.phase then on else L.attached g) g' := by
  obtain ⟨resting, h, readied, step⟩ := Rig.work_last run
  have heeded : L.Agrees on (g.drain.heedFailure E) := agrees_orders.heeded agrees
  have found : L.Agrees on h := by
    cases readied with
    | heeded => exact heeded
    | expired capturing => exact heeded.moveTo (by rw [capturing]; rfl)
  intro attached
  rw [found.step step attached, Phase.capture_of_resting resting]
  cases captures : g'.control.phase.captures with
  | false => rfl
  | true =>
    rw [Rig.captured_by readied step captures]
    rw [L.attached_eq ((Rig.registry_kept g.registry).work run rfl)] at attached
    by_cases same : g'.control.phase = g.control.phase
    · simp [same]
    · simp [same, attached]

theorem Agrees.ticks (agrees : L.Agrees on g) {e : Event ρ κ} (ticks : e.isTick = true)
    (run : g.happen E act e = .ok g') :
    L.Agrees (if g'.control.phase = g.control.phase then on else L.attached g) g' ∧ L.attached g' = L.attached g := by
  cases e with
  | tick now =>
    obtain ⟨wait, ticked⟩ := Rig.happen_tick run
    obtain ⟨settled, work, leds, _⟩ := Rig.tick_eq_ok.mp ticked
    have phase : g'.control.phase = settled.control.phase := (Rig.phase_lamps _).updateLeds leds rfl
    rw [phase]
    exact ⟨agrees_lamps.updateLeds leds (agrees.work work), L.attached_eq ((Rig.registry_kept _).tick ticked rfl)⟩
  | broken now => exact ⟨agrees.work run, L.attached_eq ((Rig.registry_kept _).work run rfl)⟩
  | _ => cases ticks

end Work

end Logger

namespace Rig

variable {ρ σ δ κ : Type}

/-- The event by which a rig has come to its phase, with the rig that it happened to: the last that found another
phase. -/
def enteredBy? (past : List (Rig ρ σ δ × Event ρ κ)) (g : Rig ρ σ δ) : Option (Rig ρ σ δ × Event ρ κ) :=
  past.reverse.find? fun x => x.1.control.phase ≠ g.control.phase

theorem enteredBy_of_same {g g' : Rig ρ σ δ} (same : g'.control.phase = g.control.phase)
    (past : List (Rig ρ σ δ × Event ρ κ)) (e : Event ρ κ) : enteredBy? (past ++ [(g, e)]) g' = enteredBy? past g := by
  simp [enteredBy?, same]

theorem enteredBy_of_ne {g g' : Rig ρ σ δ} (other : g.control.phase ≠ g'.control.phase)
    (past : List (Rig ρ σ δ × Event ρ κ)) (e : Event ρ κ) : enteredBy? (past ++ [(g, e)]) g' = some (g, e) := by
  simp [enteredBy?, other]

end Rig

namespace Logger

variable {ρ σ δ κ : Type} [DecidableEq ρ] {E : Equipment ρ σ δ} {act : κ → σ → σ}

/-- What a run has come to for a client: it logs if a capture is under way and it is on, which it is exactly if it was
attached when the capture was begun. -/
structure Traced (L : Logger E act) (past : List (Rig ρ σ δ × Event ρ κ)) (on : Bool) (g : Rig ρ σ δ) : Prop where
  agrees : L.Agrees on g
  listed : on = true → L.attached g = true
  begun : g.control.phase.captures = true →
    ∃ entering e, Rig.enteredBy? past g = some (entering, e) ∧ e.isTick = true ∧ on = L.attached entering

namespace Traced

variable {L : Logger E act} {past : List (Rig ρ σ δ × Event ρ κ)} {on : Bool} {g g' : Rig ρ σ δ}

theorem fresh (params : ScanParams) (indicator : Bool) (instruments : σ) (files : Storage.Tree) :
    L.Traced [] false (Rig.fresh params indicator instruments files) where
  agrees attached := by cases attached
  listed on := by cases on
  begun captures := by cases captures

theorem next (traced : L.Traced past on g) (e : Event ρ κ) (agrees : L.Agrees on g')
    (listed : L.attached g = true → L.attached g' = true)
    (goesOn : g'.control.phase.captures = true → g'.control.phase = g.control.phase) :
    L.Traced (past ++ [(g, e)]) on g' where
  agrees := agrees
  listed isOn := listed (traced.listed isOn)
  begun captures := by
    have same := goesOn captures
    rw [Rig.enteredBy_of_same same]
    exact traced.begun (same ▸ captures)

theorem ticks (traced : L.Traced past on g) {e : Event ρ κ} (ticks : e.isTick = true)
    (run : g.happen E act e = .ok g') : ∃ on', L.Traced (past ++ [(g, e)]) on' g' := by
  obtain ⟨agrees, attached⟩ := traced.agrees.ticks ticks run
  by_cases same : g'.control.phase = g.control.phase
  · rw [if_pos same] at agrees
    exact ⟨on, traced.next e agrees (fun listed => attached.trans listed) fun _ => same⟩
  · rw [if_neg same] at agrees
    have entered := Rig.enteredBy_of_ne (fun e => same e.symm) past e
    exact ⟨L.attached g, agrees, fun listed => attached.trans listed, fun _ => ⟨g, e, entered, ticks, rfl⟩⟩

theorem attach (traced : L.Traced past on g) (h : Handle ρ)
    (still : (g.attach E h).1 = true → h.logger = some L.client → L.logs g = false) :
    L.Traced (past ++ [(g, .attach h)]) on (g.attach E h).2 := by
  have control : (g.attach E h).2.control = g.control := Rig.attach_control E h g
  rcases Rig.attach_cases E h g with refused | ⟨registry, instruments, attached, loggers, _, provided⟩
  · rw [refused]
    exact traced.next _ traced.agrees id fun _ => rfl
  have logs : L.logs (g.attach E h).2 = L.logs g := by
    rw [attached]
    rcases provided with rfl | ⟨r, rfl⟩
    · rfl
    · exact L.logging_provide r g.instruments
  have same : (g.attach E h).2.registry = registry := by rw [attached]
  refine traced.next _ (fun listed => ?_) (fun listed => ?_) fun _ => by rw [control]
  · rw [logs, control]
    cases before : L.attached g with
    | true => exact traced.agrees before
    -- If the client is new, it is off, and has not been started before.
    | false =>
      have added : L.client ∈ h.logger := by
        simpa [Logger.attached, same, loggers, of_decide_eq_false before] using listed
      cases accepted : (g.attach E h).1 with
      | false =>
        rw [Rig.attach_refused accepted, before] at listed
        cases listed
      | true =>
        have off : on = false := Bool.eq_false_iff.mpr fun isOn => by simp [traced.listed isOn] at before
        rw [still accepted added, off, Bool.and_false]
  · rw [Logger.attached, same, loggers, decide_eq_true_eq]
    exact List.mem_append_left _ (of_decide_eq_true listed)

theorem run {params : ScanParams} {indicator : Bool} {instruments : σ} {files : Storage.Tree}
    (run : Rig.Run E act (Rig.fresh params indicator instruments files) past g)
    (still : ∀ x h, (x, Event.attach h) ∈ past → (x.attach E h).1 = true → h.logger = some L.client → L.logs x = false) :
    ∃ on, L.Traced past on g := by
  induction run with
  | start => exact ⟨false, fresh params indicator instruments files⟩
  | @next past g e g' _ now ih =>
    obtain ⟨on, traced⟩ := ih fun x h member => still x h (List.mem_append_left _ member)
    cases e with
    | tick | broken => exact traced.ticks rfl now
    | attach h =>
      cases now
      exact ⟨on, traced.attach h (still g h (by simp))⟩
    | command c =>
      cases now
      have heeds := (Rig.heeds_orders (E := E) g.control.phase).apply c (Or.inl rfl)
      have registry := ((Rig.registry_kept g.registry).toKeptByOrders (E := E)).apply c rfl
      refine ⟨on, traced.next _ (agrees_orders.apply c traced.agrees) (fun listed => ?_) heeds.captures⟩
      rwa [L.attached_eq registry]
    | input k =>
      cases now
      exact ⟨on, traced.next _ (traced.agrees.of_same rfl (L.logging_act k g.instruments) rfl) id fun _ => rfl⟩
    | send | failure | storage =>
      cases now
      exact ⟨on, traced.next _ (traced.agrees.of_same rfl rfl rfl) id fun _ => rfl⟩

end Traced

/-- After every tick of a run in which the client never logs when it is attached: outside of the captures it does not
log, if it is attached, and in a capture it logs exactly if it was attached before the tick by which that was entered. -/
theorem logging_agrees (L : Logger E act) {params : ScanParams} {indicator : Bool} {instruments : σ}
    {files : Storage.Tree} {past : List (Rig ρ σ δ × Event ρ κ)} {g g' : Rig ρ σ δ} {e : Event ρ κ}
    (run : Rig.Run E act (Rig.fresh params indicator instruments files) past g)
    (still : ∀ x h, (x, Event.attach h) ∈ past → (x.attach E h).1 = true → h.logger = some L.client →
      L.logging x.instruments = false)
    (ticks : e.isTick = true) (now : g.happen E act e = .ok g') :
    (g'.control.phase ≠ .scanning → g'.control.phase ≠ .stopScanInProgress → L.client ∈ g'.registry.loggers →
      L.logging g'.instruments = false) ∧
    (g'.control.phase = .scanning ∨ g'.control.phase = .stopScanInProgress →
      ∃ entering e₀, Rig.enteredBy? (past ++ [(g, e)]) g' = some (entering, e₀) ∧ e₀.isTick = true ∧
        (L.client ∈ entering.registry.loggers → L.logging g'.instruments = true) ∧
        (L.client ∈ g'.registry.loggers → L.client ∉ entering.registry.loggers → L.logging g'.instruments = false)) := by
  obtain ⟨_, before⟩ := Traced.run run still
  obtain ⟨on, traced⟩ := before.ticks ticks now
  have logs : L.attached g' = true → L.logging g'.instruments = (g'.control.phase.captures && on) := by
    intro attached
    rw [← Phase.capture_of_resting (Rig.happen_rests ticks now)]
    exact traced.agrees attached
  constructor
  · intro notScanning notStopScan listed
    have resting : g'.control.phase.captures = false :=
      Bool.eq_false_iff.mpr fun captures => (Phase.captures_iff.mp captures).elim notScanning notStopScan
    rw [logs (decide_eq_true listed), resting, Bool.false_and]
  · intro capture
    have captures : g'.control.phase.captures = true := Phase.captures_iff.mpr capture
    rw [captures, Bool.true_and] at logs
    obtain ⟨entering, e₀, entered, ticked, isOn⟩ := traced.begun captures
    refine ⟨entering, e₀, entered, ticked, fun early => ?_, fun listed late => ?_⟩
    · have turnedOn : on = true := isOn.trans (decide_eq_true early)
      rw [logs (traced.listed turnedOn), turnedOn]
    · rw [logs (decide_eq_true listed), isOn]
      exact decide_eq_false late

end Logger

/-- Of two clients, one attached to an idle rig and one during a scan, the first logs and the second does not. -/
theorem Logger.logging_agrees_late :
    ∃ past g g', Rig.Run Instruments.equipment Intake.act
        (Rig.fresh { mandatoryClients := [] } true benchInstruments benchTree) past g ∧
      past.map (·.2) = [.tick 0, .attach (.of "gnss" { logger := true } .gnss), .send .startScan, .tick (millis 1000),
        .attach (.of "lidar" { logger := true } .lidar)] ∧
      g.happen Instruments.equipment Intake.act (.tick (millis 2000)) = .ok g' ∧ g'.control.phase = .scanning ∧
      g'.registry.loggers = [.gnss, .lidar] ∧ g'.instruments.gnss.logging = true ∧
      g'.instruments.lidar.logging = false := by
  let ticked (now : Instant) (g : Station) := g.happen Instruments.equipment Intake.act (.tick now)
  let attached (name : String) (r : Instrument) (g : Station) : Station :=
    (g.attach Instruments.equipment (.of name { logger := true } r)).2
  have played : ((ticked 0 (Rig.fresh { mandatoryClients := [] } true benchInstruments benchTree)).toOption.bind fun g =>
      let sent := (attached "gnss" .gnss g).send .startScan
      (ticked (millis 1000) sent).toOption.bind fun h =>
        (ticked (millis 2000) (attached "lidar" .lidar h)).toOption.map fun h' =>
          ((g.instruments.gnss.logging, sent.control.phase, sent.registry.loggers),
            (h.instruments.lidar.logging, h.control.phase), (h'.control.phase, h'.registry.loggers))) =
      some ((false, .idle, [.gnss]), (false, .scanning), (.scanning, [.gnss, .lidar])) := by decide +kernel
  obtain ⟨g, first, rest⟩ := Option.bind_eq_some_iff.mp played
  obtain ⟨h, second, rest⟩ := Option.bind_eq_some_iff.mp rest
  obtain ⟨h', third, seen⟩ := Option.map_eq_some_iff.mp rest
  have first := toOption_eq_some.mp first
  have second := toOption_eq_some.mp second
  have third := toOption_eq_some.mp third
  obtain ⟨⟨gnssOff, idle, early⟩, ⟨lidarOff, begun⟩, scanning, late⟩ : (_ ∧ _ ∧ _) ∧ (_ ∧ _) ∧ _ ∧ _ := by
    simpa only [Prod.mk.injEq] using seen
  have run := ((((Rig.Run.start.next first).next (e := .attach (.of "gnss" { logger := true } .gnss)) rfl).next
    (e := .send .startScan) rfl).next second).next (e := .attach (.of "lidar" { logger := true } .lidar)) rfl
  have lidarPhase : (attached "lidar" .lidar h).control.phase = h.control.phase :=
    congrArg (·.phase) (Rig.attach_control ..)
  have entered {past : List (Station × Event Instrument Intake)} (e e' e'' : Event Instrument Intake) :
      Rig.enteredBy? (past ++ [((attached "gnss" .gnss g).send .startScan, e)] ++ [(h, e')] ++
        [(attached "lidar" .lidar h, e'')]) h' = some ((attached "gnss" .gnss g).send .startScan, e) := by
    rw [Rig.enteredBy_of_same (scanning.trans (lidarPhase.trans begun).symm), Rig.enteredBy_of_same lidarPhase]
    exact Rig.enteredBy_of_ne (by rw [idle, begun]; decide) past e
  have still {γ : Type} (R : Recorder γ) (gnss : R.client = .gnss → R.logger.logging g.instruments = false)
      (lidar : R.client = .lidar → R.logger.logging h.instruments = false) (x : Station) (k : Handle Instrument)
      (member : x = g ∧ k = .of "gnss" { logger := true } .gnss ∨ x = h ∧ k = .of "lidar" { logger := true } .lidar)
      (serves : k.logger = some R.logger.client) : R.logger.logging x.instruments = false := by
    rcases member with ⟨rfl, rfl⟩ | ⟨rfl, rfl⟩
    · exact gnss (Option.some.inj serves).symm
    · exact lidar (Option.some.inj serves).symm
  obtain ⟨_, _, gnssEntered, _, gnssLogs, _⟩ :=
    (Recorder.gnss.logger.logging_agrees run
      (fun x k member _ => still Recorder.gnss (fun _ => gnssOff) nofun x k (by simpa using member)) rfl third).2
      (Or.inl scanning)
  obtain ⟨_, _, lidarEntered, _, _, lidarLogs⟩ :=
    (Recorder.lidar.logger.logging_agrees run
      (fun x k member _ => still Recorder.lidar nofun (fun _ => lidarOff) x k (by simpa using member)) rfl third).2
      (Or.inl scanning)
  cases (entered _ _ _).symm.trans gnssEntered
  cases (entered _ _ _).symm.trans lidarEntered
  refine ⟨_, _, h', run, rfl, third, scanning, late, gnssLogs ?_, lidarLogs ?_ ?_⟩
  · rw [early]
    decide
  · rw [late]
    decide
  · rw [early]
    decide

end CaptureRig
