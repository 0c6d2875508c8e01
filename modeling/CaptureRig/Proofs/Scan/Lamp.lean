import CaptureRig.Proofs.Scan.Halt

namespace CaptureRig

/-- The level that a call sends to the copy lamp. -/
def Call.copy? {ρ δ : Type} : Call ρ δ → Option Bool
  | .lamp .copyData on => some on
  | _ => none

theorem Command.running_of_target {c : Command} {p q : Phase} (opened : c.target? p = some q) : p.isError = false := by
  cases c <;> cases p <;> cases opened <;> rfl

theorem Phase.lamps_copyData (p : Phase) (fast slow : Bool) :
    p.lamps fast slow .copyData = (decide (p = .storageError) && slow) := by
  cases p <;> rfl

namespace Rig

variable {ρ σ δ κ : Type} {E : Equipment ρ σ δ} {act : κ → σ → σ} {g g' : Rig ρ σ δ}

/-- The levels sent to the copy lamp, in order. -/
def copies (g : Rig ρ σ δ) : List Bool := g.calls.filterMap Call.copy?

theorem copies_of_notes {P : Call ρ δ → Prop} (notes : Notes P g g') (dark : ∀ c, P c → c.copy? = none) :
    g'.copies = g.copies :=
  notes.filterMap_eq dark

theorem copies_moveTo (target : Phase) (g : Rig ρ σ δ) : (g.moveTo target).copies = g.copies :=
  copies_of_notes (moveTo_notes target g) (by rintro _ ⟨_, _, rfl⟩; rfl)

theorem copies_fail (target : Phase) (g : Rig ρ σ δ) : (g.fail E target).copies = g.copies := by
  have stopped : (g.fail E target).copies = (g.moveTo target).copies :=
    copies_of_notes (stopAll_notes E _) (by rintro _ ⟨_, rfl⟩; rfl)
  rw [stopped, copies_moveTo]

theorem copies_stored (dir : String) (index : Nat) (stop : Bool) (g : Rig ρ σ δ) :
    (g.stored E dir index stop).copies = g.copies :=
  copies_of_notes (stored_notes E dir index stop g) (fun c called => by cases called <;> rfl)

theorem showLed_shown (led : Led) (on : Bool) (g : Rig ρ σ δ) : (g.showLed E led on).control.shown led = some on := by
  unfold showLed
  split
  · assumption
  · dsimp only
    split <;> exact if_pos rfl

theorem showLed_shown_of_ne {led other : Led} (ne : other ≠ led) (on : Bool) (g : Rig ρ σ δ) :
    (g.showLed E led on).control.shown other = g.control.shown other := by
  unfold showLed
  split
  · rfl
  · dsimp only
    split <;> exact if_neg ne

theorem showLed_of_shown {led : Led} {on : Bool} (same : g.control.shown led = some on) : g.showLed E led on = g :=
  if_pos same

theorem copies_showLed_of_ne {led : Led} (ne : led ≠ .copyData) (on : Bool) (g : Rig ρ σ δ) :
    (g.showLed E led on).copies = g.copies := by
  refine copies_of_notes (showLed_notes E led on g) ?_
  rintro _ rfl
  cases led <;> first | rfl | exact absurd rfl ne

theorem copies_showLed {on : Bool} (new : g.control.shown .copyData ≠ some on) :
    (g.showLed E .copyData on).copies = g.copies ++ if g.control.indicator then [on] else [] := by
  unfold showLed
  rw [if_neg new]
  dsimp only
  split
  · exact List.filterMap_append ..
  · exact (List.append_nil _).symm

section Blinking

variable {now : Instant} {fast slow : Duration}

theorem watchPhase_phase (now : Instant) (g : Rig ρ σ δ) : (g.watchPhase now).control.phase = g.control.phase := by
  obtain ⟨_, _, watched⟩ := watchPhase_control now g
  rw [watched]

theorem watchPhase_lastPhase (now : Instant) (g : Rig ρ σ δ) :
    (g.watchPhase now).control.lastPhase = g.control.phase := by
  unfold watchPhase
  split
  · rfl
  · rename_i same
    exact (Decidable.not_not.mp (not_or.mp same).1).symm

theorem showPhase_lastPhase : (g.showPhase E now fast slow).control.lastPhase = g.control.phase := by
  simp only [showPhase, List.foldl_cons, List.foldl_nil]
  rw [showLed_control, showLed_control, showLed_control, watchPhase_lastPhase]

/-- Each lamp is shown as the phase has it by then. -/
theorem showPhase_shown (led : Led) :
    (g.showPhase E now fast slow).control.shown led =
      some (g.control.phase.lamps (Phase.blink (((g.watchPhase now).control.entered.getD now).elapsed now) fast)
        (Phase.blink (((g.watchPhase now).control.entered.getD now).elapsed now) slow) led) := by
  simp only [showPhase, List.foldl_cons, List.foldl_nil, watchPhase_phase]
  cases led with
  | copyData => exact showLed_shown ..
  | stopScan =>
    rw [showLed_shown_of_ne (by decide)]
    exact showLed_shown ..
  | continuousScanning =>
    rw [showLed_shown_of_ne (by decide), showLed_shown_of_ne (by decide)]
    exact showLed_shown ..

/-- The storage error is shown first with the copy lamp out, and any other phase always. -/
theorem showPhase_unlit (new : g.control.phase = .storageError → g.control.lastPhase ≠ .storageError) :
    (g.showPhase E now fast slow).control.shown .copyData = some false := by
  rw [showPhase_shown, Phase.lamps_copyData]
  by_cases error : g.control.phase = .storageError
  · have changed : g.control.phase ≠ g.control.lastPhase := fun same => new error (same ▸ error)
    have entered : (g.watchPhase now).control.entered = some now := by
      rw [watchPhase, if_pos (Or.inl changed)]
    have elapsed : Instant.elapsed now now = 0 := Nat.sub_self now
    rw [entered, Option.getD_some, elapsed, Phase.blink, Nat.zero_div]
    exact congrArg some (Bool.and_false _)
  · rw [decide_eq_false error, Bool.false_and]

/-- Nothing is sent to the copy lamp if it is out and is to be. -/
theorem copies_showPhase (new : g.control.phase = .storageError → g.control.lastPhase ≠ .storageError)
    (unlit : g.control.shown .copyData = some false) : (g.showPhase E now fast slow).copies = g.copies := by
  have shown : (g.showPhase E now fast slow).control.shown .copyData = some false := showPhase_unlit new
  obtain ⟨_, _, watched⟩ := watchPhase_control now g
  simp only [showPhase, List.foldl_cons, List.foldl_nil] at shown ⊢
  rw [showLed_shown, Option.some.injEq] at shown
  rw [shown, showLed_of_shown, copies_showLed_of_ne (by decide), copies_showLed_of_ne (by decide), watched]
  · rfl
  · rw [showLed_shown_of_ne (by decide), showLed_shown_of_ne (by decide), watched]
    exact unlit

end Blinking

/-- Outside of the errors the copy lamp is out, and the storage error has not been shown yet. -/
def Calm (g : Rig ρ σ δ) : Prop :=
  g.control.phase.isError = false → g.control.shown .copyData ≠ some true ∧ g.control.lastPhase ≠ .storageError

theorem Deed.running {now : Instant} (deed : Deed E now g g') : g.control.phase.isError = false := by
  cases deed with
  | allocated phase | refused phase | launched phase | waited phase | filed phase | dropped phase | armed phase
  | begun phase | expired phase =>
    rw [phase]
    rfl
  | @ended mode _ phase | @lost mode _ phase =>
    rw [phase]
    cases mode <;> rfl

theorem commitChunk_shown {mode : ScanMode} {stop done : Bool} (run : g.commitChunk E mode stop = (done, g')) :
    g'.control.shown = g.control.shown ∨ g'.control.shown .copyData = some false := by
  cases commitChunk_end run with
  | unallocated => exact Or.inl rfl
  | refused | unsynced => exact Or.inr (showLed_shown ..)
  | counted _ _ _ same =>
    rw [same]
    exact Or.inr (showLed_shown ..)

theorem Deed.shown {now : Instant} (deed : Deed E now g g') :
    g'.control.shown = g.control.shown ∨ g'.control.shown .copyData = some false := by
  cases deed with
  | filed _ _ _ done =>
    have shown := commitChunk_shown done
    exact shown
  | ended _ done =>
    rw [moveTo_control]
    exact commitChunk_shown done
  | dropped _ _ _ failed =>
    rw [fail_control]
    have shown := commitChunk_shown failed
    exact shown
  | lost _ failed =>
    rw [fail_control]
    exact commitChunk_shown failed
  | refused => exact Or.inl (by rw [fail_control, note_control])
  | waited => exact Or.inl rfl
  | launched | begun => exact Or.inl (by simp [setDeadlines])
  | allocated | armed | expired =>
    rw [moveTo_control]
    exact Or.inl rfl

namespace Calm

theorem orders : KeptByOrders E fun g : Rig ρ σ δ => g.Calm where
  command opened calm _ := by
    rw [moveTo_control]
    exact calm (Command.running_of_target opened)
  failure _ _ _ running := by
    rw [fail_control] at running
    cases running
  queue _ calm := calm

theorem deed {now : Instant} (deed : Deed E now g g') (calm : g.Calm) : g'.Calm := by
  intro _
  obtain ⟨unlit, unseen⟩ := calm deed.running
  obtain ⟨_, _, _, _, control⟩ := deed.control
  have lastPhase : g'.control.lastPhase = g.control.lastPhase := congrArg (·.lastPhase) control
  refine ⟨?_, lastPhase ▸ unseen⟩
  rcases deed.shown with same | dark
  · exact same ▸ unlit
  · rw [dark]
    decide

theorem work (calm : g.Calm) {now : Instant} (run : g.work E now = .ok g') : g'.Calm :=
  advance_kept deed run (orders.heeded calm)

/-- Whatever the lamps showed, they are as they should be once the phase is shown. -/
theorem updateLeds {now : Instant} (run : g.updateLeds E now = .ok g') : g'.Calm := by
  have phase : g'.control.phase = g.control.phase := (phase_lamps _).updateLeds run rfl
  obtain ⟨fast, slow, _, _, rfl⟩ := updateLeds_eq_ok.mp run
  intro running
  rw [phase] at running
  have elsewhere : g.control.phase ≠ .storageError := by
    intro error
    rw [error] at running
    cases running
  have unlit : (g.showPhase E now fast slow).control.shown .copyData = some false :=
    showPhase_unlit fun error => absurd error elsewhere
  exact ⟨by rw [unlit]; decide, by rwa [showPhase_lastPhase]⟩

theorem run {params : ScanParams} {indicator : Bool} {instruments : σ} {files : Storage.Tree}
    {past : List (Rig ρ σ δ × Event ρ κ)} (run : Run E act (fresh params indicator instruments files) past g) :
    g.Calm := by
  induction run with
  | start => exact fun _ => ⟨nofun, nofun⟩
  | @next past g e g' _ now calm =>
    cases e with
    | tick =>
      obtain ⟨_, _, leds, _⟩ := tick_eq_ok.mp (happen_tick now).choose_spec
      exact updateLeds leds
    | broken => exact calm.work now
    | command c =>
      cases now
      exact (orders (E := E)).apply c calm
    | attach h =>
      cases now
      unfold Calm
      rw [attach_control]
      exact calm
    | send | failure | input | storage =>
      cases now
      exact calm

end Calm

end Rig

end CaptureRig
