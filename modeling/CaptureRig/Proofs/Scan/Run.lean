import CaptureRig.Proofs.Scan.Deed
import CaptureRig.Rig.Instruments

namespace CaptureRig

/-- What happens to a rig, where `κ` is what its instruments take in. -/
inductive Event (ρ κ : Type) where
  | tick (now : Instant)
  /-- A tick that is broken off when its work is done, before the lamps show it. -/
  | broken (now : Instant)
  /-- A command that is applied at once. -/
  | command (c : Command)
  /-- A command for the next tick. -/
  | send (c : Command)
  /-- A sensor is reported to have failed. -/
  | failure
  | attach (h : Handle ρ)
  | input (k : κ)
  /-- The storage is found changed. -/
  | storage (t : Storage.Tree)

/-- Whether an event is a tick, be it one that is broken off. -/
def Event.isTick {ρ κ : Type} : Event ρ κ → Bool
  | .tick _ | .broken _ => true
  | _ => false

namespace Rig

variable {ρ σ δ κ : Type}

/-- A rig that nothing has happened to. -/
def fresh (params : ScanParams) (indicator : Bool) (instruments : σ) (files : Storage.Tree) : Rig ρ σ δ :=
  { control := { params, indicator }, instruments, files }

def happen (E : Equipment ρ σ δ) (act : κ → σ → σ) (g : Rig ρ σ δ) : Event ρ κ → Except Fault (Rig ρ σ δ)
  | .tick now => (·.2) <$> g.tick E now
  | .broken now => g.work E now
  | .command c => .ok (g.apply c).2
  | .send c => .ok (g.send c)
  | .failure => .ok g.reportFailure
  | .attach h => .ok (g.attach E h).2
  | .input k => .ok { g with instruments := act k g.instruments }
  | .storage t => .ok { g with files := t }

/-- A run from one rig to another, with every event of it and the rig that it happened to. -/
inductive Run (E : Equipment ρ σ δ) (act : κ → σ → σ) (g₀ : Rig ρ σ δ) :
    List (Rig ρ σ δ × Event ρ κ) → Rig ρ σ δ → Prop
  | start : Run E act g₀ [] g₀
  | next {past g e g'} (run : Run E act g₀ past g) (now : g.happen E act e = .ok g') :
      Run E act g₀ (past ++ [(g, e)]) g'

def play (E : Equipment ρ σ δ) (act : κ → σ → σ) (g : Rig ρ σ δ) (events : List (Event ρ κ)) :
    Except Fault (Rig ρ σ δ) :=
  events.foldlM (happen E act) g

variable {E : Equipment ρ σ δ} {act : κ → σ → σ}

theorem Run.trans {past later : List (Rig ρ σ δ × Event ρ κ)} {g₀ g g' : Rig ρ σ δ} (run : Run E act g₀ past g)
    (on : Run E act g later g') : Run E act g₀ (past ++ later) g' := by
  induction on with
  | start => rwa [List.append_nil]
  | next _ now ih =>
    rw [← List.append_assoc]
    exact ih.next now

/-- A run goes on by events that can be played. -/
theorem Run.play {events : List (Event ρ κ)} {past : List (Rig ρ σ δ × Event ρ κ)} {g₀ g g' : Rig ρ σ δ}
    (run : Run E act g₀ past g) (played : g.play E act events = .ok g') :
    ∃ more, more.map (·.2) = events ∧ Run E act g₀ (past ++ more) g' := by
  induction events generalizing g past with
  | nil =>
    cases played
    exact ⟨[], rfl, by rwa [List.append_nil]⟩
  | cons e events ih =>
    rw [Rig.play, List.foldlM_cons] at played
    obtain ⟨next, now, rest⟩ := bind_eq_ok.mp played
    obtain ⟨more, same, whole⟩ := ih (run.next now) rest
    refine ⟨(g, e) :: more, by rw [List.map_cons, same], ?_⟩
    rwa [List.append_assoc] at whole

theorem happen_tick {now : Instant} {g g' : Rig ρ σ δ} (run : g.happen E act (.tick now) = .ok g') :
    ∃ wait, g.tick E now = .ok (wait, g') := by
  cases ticked : g.tick E now with
  | error e => simp [happen, ticked, Functor.map, Except.map] at run
  | ok result =>
    simp only [happen, ticked, Functor.map, Except.map, Except.ok.injEq] at run
    exact ⟨result.1, by rw [← run]⟩

/-- What nothing breaks that happens to a rig is kept in all runs. -/
structure Lasting (E : Equipment ρ σ δ) (act : κ → σ → σ) (I : Rig ρ σ δ → Prop) : Prop extends Kept E I where
  report : ∀ {g : Rig ρ σ δ}, I g → I g.reportFailure
  attach : ∀ {g : Rig ρ σ δ} h, I g → I (g.attach E h).2
  input : ∀ {g : Rig ρ σ δ} k, I g → I { g with instruments := act k g.instruments }
  storage : ∀ {g : Rig ρ σ δ} t, I g → I { g with files := t }

theorem Lasting.happen {I : Rig ρ σ δ → Prop} (lasting : Lasting E act I) {e : Event ρ κ} {g g' : Rig ρ σ δ}
    (now : g.happen E act e = .ok g') (holds : I g) : I g' := by
  cases e with
  | tick => exact lasting.tick (happen_tick now).choose_spec holds
  | broken => exact lasting.work now holds
  | command c =>
    cases now
    exact lasting.apply c holds
  | send c =>
    cases now
    exact lasting.queue _ holds
  | failure =>
    cases now
    exact lasting.report holds
  | attach h =>
    cases now
    exact lasting.attach h holds
  | input k =>
    cases now
    exact lasting.input k holds
  | storage t =>
    cases now
    exact lasting.storage t holds

theorem Lasting.run {I : Rig ρ σ δ → Prop} (lasting : Lasting E act I) {past : List (Rig ρ σ δ × Event ρ κ)}
    {g₀ g : Rig ρ σ δ} (run : Run E act g₀ past g) (holds : I g₀) : I g := by
  induction run with
  | start => exact holds
  | next _ now ih => exact lasting.happen now ih

/-- What is said of the instruments and the notes, and is kept by every call that is noted and by every commit. -/
structure Piecewise (E : Equipment ρ σ δ) (I : σ → List (Call ρ δ) → Prop) : Prop where
  start : ∀ {i calls} r, I i calls → I (E.start r i) (calls ++ [.started r])
  stop : ∀ {i calls} r, I i calls → I (E.stop r i) (calls ++ [.stopped r])
  provide : ∀ {i calls} r, I i calls → I (E.provide r i) (calls ++ [.provided r])
  setLed : ∀ {i calls} led on, I i calls → I (E.setLed led on i) (calls ++ [.lamp led on])
  move : ∀ {i calls} p q, I i calls → I i (calls ++ [.moved p q])
  allocate : ∀ {i j calls t u dirs}, E.allocate i t = .ok (dirs, j, u) → I i calls → I j (calls ++ [.allocated dirs])
  commit : ∀ {mode stop done} {g g' : Rig ρ σ δ}, g.commitChunk E mode stop = (done, g') →
    I g.instruments g.calls → I g'.instruments g'.calls

namespace Piecewise

variable {I : σ → List (Call ρ δ) → Prop} (kept : Piecewise E I) {g g' : Rig ρ σ δ}

include kept

theorem moveTo {target : Phase} (holds : I g.instruments g.calls) :
    I (g.moveTo target).instruments (g.moveTo target).calls := by
  unfold Rig.moveTo
  split
  · exact holds
  · exact kept.move _ _ holds

theorem startAll (holds : I g.instruments g.calls) : I (g.startAll E).instruments (g.startAll E).calls := by
  unfold Rig.startAll
  generalize g.registry.loggers = clients
  induction clients generalizing g with
  | nil => exact holds
  | cons r rest ih => exact ih (g := _) (kept.start r holds)

theorem stopAll (holds : I g.instruments g.calls) : I (g.stopAll E).instruments (g.stopAll E).calls := by
  unfold Rig.stopAll
  generalize g.registry.loggers = clients
  induction clients generalizing g with
  | nil => exact holds
  | cons r rest ih => exact ih (g := _) (kept.stop r holds)

theorem fail {target : Phase} (holds : I g.instruments g.calls) :
    I (g.fail E target).instruments (g.fail E target).calls :=
  kept.stopAll (kept.moveTo holds)

theorem showLed {led : Led} {on : Bool} (holds : I g.instruments g.calls) :
    I (g.showLed E led on).instruments (g.showLed E led on).calls := by
  unfold Rig.showLed
  dsimp only
  split
  · exact holds
  split
  · exact kept.setLed led on holds
  · exact holds

theorem deed {now : Instant} (deed : Deed E now g g') (holds : I g.instruments g.calls) :
    I g'.instruments g'.calls := by
  cases deed with
  | allocated _ _ granted => exact kept.moveTo (kept.allocate granted holds)
  | refused _ _ denied => exact kept.fail (kept.allocate denied holds)
  | launched | begun => exact kept.moveTo (kept.startAll holds)
  | waited => exact holds
  | filed _ _ _ done =>
    have filed := kept.commit done holds
    exact filed
  | dropped _ _ _ failed => exact kept.fail (kept.commit failed holds)
  | ended _ done => exact kept.moveTo (kept.commit done holds)
  | lost _ failed => exact kept.fail (kept.commit failed holds)
  | armed | expired => exact kept.moveTo holds

theorem toKept : Kept E fun g => I g.instruments g.calls where
  command _ holds := kept.moveTo holds
  failure _ _ holds := kept.fail holds
  queue _ holds := holds
  lamp _ _ holds := kept.showLed holds
  watch _ _ holds := holds
  deed deed holds := kept.deed deed holds

theorem toLasting (input : ∀ k i calls, I i calls → I (act k i) calls) :
    Lasting E act fun g => I g.instruments g.calls where
  toKept := kept.toKept
  report holds := holds
  attach h holds := by
    unfold Rig.attach
    split
    · exact holds
    dsimp only
    split
    · exact holds
    · exact kept.provide _ holds
  input _ holds := input _ _ _ holds
  storage _ holds := holds

end Piecewise

theorem noted_piecewise (calls : List (Call ρ δ)) : Piecewise E fun _ noted => calls <+: noted := by
  have longer {noted : List (Call ρ δ)} (c : Call ρ δ) (before : calls <+: noted) : calls <+: noted ++ [c] :=
    before.trans (List.prefix_append ..)
  exact
    { start := fun _ => longer _
      stop := fun _ => longer _
      provide := fun _ => longer _
      setLed := fun _ _ => longer _
      move := fun _ _ => longer _
      allocate := fun _ => longer _
      commit := fun run before => before.trans (commitChunk_noted run) }

/-- What has been noted stays noted. -/
theorem noted_lasting (calls : List (Call ρ δ)) : Lasting E act fun g => calls <+: g.calls :=
  (noted_piecewise calls).toLasting fun _ _ _ noted => noted

/-- The parameters of a rig are the same in all of a run. -/
theorem params_lasting (params : ScanParams) : Lasting E act fun g => g.control.params = params where
  command _ same := by rwa [moveTo_control]
  failure _ _ same := by rwa [fail_control]
  queue _ same := same
  lamp led on same := by rwa [showLed_control]
  watch _ _ same := same
  deed deed same := by
    obtain ⟨_, _, _, _, control⟩ := deed.control
    rwa [control]
  report same := same
  attach h same := by rwa [attach_control]
  input _ same := same
  storage _ same := same

end Rig

/-- Instruments whose sessions are all in the same two directories. -/
def benchInstruments : Instruments :=
  { Instruments.new "" [] with fixedDirs := some ⟨0, "usb/continuous", "usb/stop"⟩ }

def benchTree : Storage.Tree :=
  { entries := [(["usb"], .directory), (["usb", "continuous"], .directory), (["usb", "stop"], .directory)] }

end CaptureRig
