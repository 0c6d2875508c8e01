import CaptureRig.Proofs.Clock.Stretch
import CaptureRig.Proofs.Record.Intake
import CaptureRig.Proofs.Scan.Lamp
import Mathlib.Data.List.Chain

namespace CaptureRig

namespace Call

variable {ρ δ : Type}

/-- The level that a call sends to a lamp. -/
def level? (led : Led) : Call ρ δ → Option Bool
  | .lamp l on => if l = led then some on else none
  | _ => none

/-- Whether a call is made in the course of a commit, or notes one. -/
def isCommitting : Call ρ δ → Bool
  | .froze .. | .persisted .. | .committed .. => true
  | _ => false

/-- A call that sends nothing to the lamps. -/
def Dark (c : Call ρ δ) : Prop := ∀ led, c.level? led = none

/-- A call that neither sends anything to the lamps nor is one of a commit. -/
def Aside (c : Call ρ δ) : Prop := c.Dark ∧ c.isCommitting = false

end Call

/-- The levels of the lamps in a phase that was entered some time ago. -/
def Phase.pattern (p : Phase) (fast slow elapsed : Duration) : Led → Bool :=
  p.lamps (Phase.blink elapsed fast) (Phase.blink elapsed slow)

theorem Phase.pattern_copyData {p : Phase} {fast slow elapsed : Duration} :
    p.pattern fast slow elapsed .copyData = true ↔ p = .storageError ∧ elapsed / max slow 1 % 2 = 1 := by
  simp [Phase.pattern, Phase.lamps_copyData, Phase.blink]

/-- The lamps are driven by the controller alone, where `lit` tells which of them are lit. -/
structure SoleDriver {ρ σ δ κ : Type} (E : Equipment ρ σ δ) (act : κ → σ → σ) (lit : σ → Led → Bool) : Prop where
  set : ∀ led on i, lit (E.setLed led on i) = fun l => if l = led then on else lit i l
  start : ∀ r i, lit (E.start r i) = lit i
  stop : ∀ r i, lit (E.stop r i) = lit i
  provide : ∀ r i, lit (E.provide r i) = lit i
  freeze : ∀ r i, lit (E.freeze r i).2 = lit i
  allocate : ∀ {i t dirs i' t'}, E.allocate i t = .ok (dirs, i', t') → lit i' = lit i
  input : ∀ k i, lit (act k i) = lit i

/-- What of the control decides on the lamps, besides the phase and what they have been sent. -/
def Control.watch (c : Control) : ScanParams × Bool × Phase × Option Instant :=
  (c.params, c.indicator, c.lastPhase, c.entered)

namespace Rig

variable {ρ σ δ κ : Type} {E : Equipment ρ σ δ} {act : κ → σ → σ} {lit : σ → Led → Bool}

/-- From one rig to another only calls of some kind have been noted, and nothing is done with the lamps. -/
structure Still (lit : σ → Led → Bool) (P : Call ρ δ → Prop) (g g' : Rig ρ σ δ) : Prop where
  calls : Notes P g g'
  shown : g'.control.shown = g.control.shown
  watch : g'.control.watch = g.control.watch
  lamps : lit g'.instruments = lit g.instruments

namespace Still

variable {P : Call ρ δ → Prop} {g h g' : Rig ρ σ δ}

theorem refl (g : Rig ρ σ δ) : Still lit P g g := ⟨.of_same rfl, rfl, rfl, rfl⟩

theorem trans (first : Still lit P g h) (second : Still lit P h g') : Still lit P g g' where
  calls := first.calls.trans second.calls
  shown := second.shown.trans first.shown
  watch := second.watch.trans first.watch
  lamps := second.lamps.trans first.lamps

theorem setDeadlines (d : Deadlines) (g : Rig ρ σ δ) : Still lit P g (g.setDeadlines d) := ⟨.of_same rfl, rfl, rfl, rfl⟩

theorem moveTo (target : Phase) (g : Rig ρ σ δ) : Still lit Call.Aside g (g.moveTo target) where
  calls := (moveTo_notes target g).mono (by rintro _ ⟨_, _, rfl⟩; exact ⟨fun _ => rfl, rfl⟩)
  shown := by rw [moveTo_control]
  watch := by rw [moveTo_control]; rfl
  lamps := by rw [moveTo_instruments]

/-- What leaves the lamps alone does so for any number of clients. -/
theorem lit_foldl {change : ρ → σ → σ} (alone : ∀ r i, lit (change r i) = lit i) (clients : List ρ) (i : σ) :
    lit (clients.foldl (fun i r => change r i) i) = lit i := by
  induction clients generalizing i with
  | nil => rfl
  | cons r rest ih => rw [List.foldl_cons, ih, alone]

section Driver

variable (sole : SoleDriver E act lit)

include sole

theorem startAll (g : Rig ρ σ δ) : Still lit Call.Aside g (g.startAll E) where
  calls := ⟨g.registry.loggers.map .started, by rw [startAll_eq], by
    intro c member
    obtain ⟨_, _, rfl⟩ := List.mem_map.mp member
    exact ⟨fun _ => rfl, rfl⟩⟩
  shown := by rw [startAll_control]
  watch := by rw [startAll_control]
  lamps := by rw [startAll_eq]; exact lit_foldl sole.start ..

theorem stopAll (g : Rig ρ σ δ) : Still lit Call.Aside g (g.stopAll E) where
  calls := (stopAll_notes E g).mono (by rintro _ ⟨_, rfl⟩; exact ⟨fun _ => rfl, rfl⟩)
  shown := by rw [stopAll_control]
  watch := by rw [stopAll_control]
  lamps := by rw [stopAll_eq]; exact lit_foldl sole.stop ..

theorem fail (target : Phase) (g : Rig ρ σ δ) : Still lit Call.Aside g (g.fail E target) :=
  (moveTo target g).trans (stopAll sole _)

theorem lit_freezeEach (clients : List (String × ρ)) (g : Rig ρ σ δ) :
    lit (freezeEach E clients g).2.instruments = lit g.instruments := by
  induction clients generalizing g with
  | nil => rfl
  | cons entry rest ih => exact (ih _).trans (sole.freeze _ _)

theorem stored (dir : String) (index : Nat) (stop : Bool) (g : Rig ρ σ δ) :
    Still lit Call.Dark g (g.stored E dir index stop) where
  calls := (stored_notes E dir index stop g).mono fun c called => by cases called <;> exact fun _ => rfl
  shown := by rw [stored_control]
  watch := by rw [stored_control]
  lamps := by
    have frozen := lit_freezeEach sole g.registry.dumpables g
    have persisted : (g.stored E dir index stop).instruments = (g.gathered E stop).instruments := by
      rw [Rig.stored, persistEach_eq]
    rw [persisted, gathered]
    split
    · exact (stopAll sole _).lamps.trans frozen
    · exact frozen

theorem attach (k : Handle ρ) (g : Rig ρ σ δ) : Still lit Call.Aside g (g.attach E k).2 := by
  rcases attach_cases E k g with refused | ⟨_, instruments, attached, _, _, provided⟩
  · rw [refused]
    exact .refl g
  · rw [attached]
    refine ⟨⟨_, rfl, ?_⟩, rfl, rfl, ?_⟩
    · intro c member
      obtain ⟨_, _, rfl⟩ := Option.map_eq_some_iff.mp (Option.mem_toList.mp member)
      exact ⟨fun _ => rfl, rfl⟩
    · rcases provided with same | ⟨r, same⟩
      · exact congrArg lit same
      · exact (congrArg lit same).trans (sole.provide r _)

end Driver

end Still

/-- What the work of a tick does with the lamps: nothing at all, or it lights the copy lamp for a commit and then puts it
out. -/
inductive Worked (E : Equipment ρ σ δ) (lit : σ → Led → Bool) (g : Rig ρ σ δ) : Rig ρ σ δ → Prop
  | still {g'} (still : Still lit Call.Aside g g') : Worked E lit g g'
  | copied {h k g'} (before : Still lit Call.Aside g h) (during : Still lit Call.Dark (h.showLed E .copyData true) k)
      (after : Still lit Call.Aside (k.showLed E .copyData false) g') : Worked E lit g g'

namespace Worked

variable {g h g' : Rig ρ σ δ}

theorem before (first : Still lit Call.Aside g h) (worked : Worked E lit h g') : Worked E lit g g' := by
  cases worked with
  | still still => exact .still (first.trans still)
  | copied before during after => exact .copied (first.trans before) during after

theorem after (worked : Worked E lit g h) (last : Still lit Call.Aside h g') : Worked E lit g g' := by
  cases worked with
  | still still => exact .still (still.trans last)
  | copied before during after => exact .copied before during (after.trans last)

variable (sole : SoleDriver E act lit)

include sole

theorem commitChunk {mode : ScanMode} {stop done : Bool} (run : g.commitChunk E mode stop = (done, g')) :
    Worked E lit g g' := by
  have noted (dir : String) (index : Nat) (done : Bool) (h : Rig ρ σ δ) :
      Still lit Call.Dark h (h.note (.committed dir index stop done)) :=
    ⟨.of_note (fun _ => rfl) h, rfl, rfl, rfl⟩
  cases commitChunk_end run with
  | unallocated => exact .still (.refl g)
  | refused => exact .copied (.refl g) (noted _ _ _ _) (.refl _)
  | unsynced => exact .copied (.refl g) ((Still.stored sole _ _ _ _).trans (noted _ _ _ _)) (.refl _)
  | @counted s failures h _ _ _ same =>
    have counted (k : Rig ρ σ δ) : Still lit Call.Dark k (countCommit E s.nextChunk failures k) :=
      ⟨.of_same rfl, rfl, rfl, rfl⟩
    subst same
    exact .copied (.refl g) (((Still.stored sole _ _ _ _).trans (counted _)).trans (noted _ _ _ _))
      ⟨.of_same rfl, rfl, rfl, rfl⟩

theorem deed {now : Instant} (deed : Deed E now g g') : Worked E lit g g' := by
  have allocated {dirs i t} (answer : E.allocate g.instruments g.files = .ok (dirs, i, t)) :
      Still lit Call.Aside g ({ g with instruments := i, files := t }.note (.allocated dirs)) :=
    ⟨⟨_, rfl, by simp [Call.Aside, Call.Dark, Call.level?, Call.isCommitting]⟩, rfl, rfl, sole.allocate answer⟩
  cases deed with
  | @allocated dirs _ _ _ _ granted =>
    have bound (h : Rig ρ σ δ) : Still lit Call.Aside h (h.inSession dirs) := ⟨.of_same rfl, rfl, rfl, rfl⟩
    exact .still (((allocated granted).trans (bound _)).trans (.moveTo _ _))
  | refused _ _ denied => exact .still ((allocated denied).trans (.fail sole _ _))
  | launched => exact .still (((Still.startAll sole g).trans (.setDeadlines _ _)).trans (.moveTo _ _))
  | waited => exact .still (.setDeadlines _ _)
  | filed _ _ _ done => exact before (.setDeadlines _ _) ((commitChunk sole done).after (.setDeadlines _ _))
  | dropped _ _ _ failed => exact before (.setDeadlines _ _) ((commitChunk sole failed).after (.fail sole _ _))
  | ended _ done => exact (commitChunk sole done).after (.moveTo _ _)
  | lost _ failed => exact (commitChunk sole failed).after (.fail sole _ _)
  | armed => exact .still (Still.trans (.setDeadlines _ _) (.moveTo _ _))
  | begun => exact .still ((Still.startAll sole g).trans (.moveTo _ _))
  | expired => exact .still (.moveTo _ _)

/-- Neither commands nor failures do anything with the lamps. -/
theorem orders (g : Rig ρ σ δ) : KeptByOrders E (Still lit Call.Aside g) where
  command _ still := still.trans (.moveTo _ _)
  failure _ _ still := still.trans (.fail sole _ _)
  queue _ still := still.trans ⟨.of_same rfl, rfl, rfl, rfl⟩

theorem work {now : Instant} (run : g.work E now = .ok g') : Worked E lit g g' := by
  obtain ⟨_, h, readied, last⟩ := work_last run
  have ready : Still lit Call.Aside g h := by
    have heeded := (orders sole g).heeded (.refl g)
    cases readied with
    | heeded => exact heeded
    | expired => exact heeded.trans (.moveTo _ _)
  rcases step_deed last with ⟨rfl, _⟩ | deed
  · exact .still ready
  · exact before ready (Worked.deed sole deed)

end Worked

/-- The levels that some calls send to a lamp, in order. -/
def sent (led : Led) (calls : List (Call ρ δ)) : List Bool := calls.filterMap (Call.level? led)

theorem sent_append_dark {calls added : List (Call ρ δ)} (dark : ∀ c ∈ added, c.Dark) (led : Led) :
    sent led (calls ++ added) = sent led calls := by
  have nothing : added.filterMap (Call.level? led) = [] := List.filterMap_eq_nil_iff.mpr fun c member => dark c member led
  rw [sent, List.filterMap_append, nothing, List.append_nil, sent]

/-- What the controller remembers of each lamp is the level sent last; no level is sent twice in a row; and the lamps are
at these levels, or else as they were at first. -/
structure Told (lit : σ → Led → Bool) (first : Led → Bool) (g : Rig ρ σ δ) : Prop where
  indicator : g.control.indicator = true
  last : ∀ led, (sent led g.calls).getLast? = g.control.shown led
  changes : ∀ led, (sent led g.calls).IsChain (· ≠ ·)
  lamps : ∀ led, lit g.instruments led = (g.control.shown led).getD (first led)

namespace Told

variable {first : Led → Bool} {P : Call ρ δ → Prop} {g g' : Rig ρ σ δ}

theorem still (told : Told lit first g) (still : Still lit P g g') (dark : ∀ c, P c → c.Dark) : Told lit first g' := by
  have same (led : Led) : sent led g'.calls = sent led g.calls := still.calls.filterMap_eq fun c kind => dark c kind led
  exact ⟨(congrArg (·.2.1) still.watch).trans told.indicator, by simpa only [same, still.shown] using told.last,
    by simpa only [same] using told.changes, by simpa only [still.lamps, still.shown] using told.lamps⟩

variable (sole : SoleDriver E act lit)

include sole

/-- A level is sent only if it differs from the one sent last. -/
theorem showLed (told : Told lit first g) (led : Led) (on : Bool) : Told lit first (g.showLed E led on) := by
  by_cases same : g.control.shown led = some on
  · rwa [showLed_of_shown same]
  have lights : g.showLed E led on =
      { g with
        control := { g.control with shown := fun l => if l = led then some on else g.control.shown l }
        instruments := E.setLed led on g.instruments
        calls := g.calls ++ [.lamp led on] } := by
    simp only [Rig.showLed, if_neg same, told.indicator, if_true, note]
  have added (l : Led) : sent l (g.calls ++ [.lamp led on]) = sent l g.calls ++ if led = l then [on] else [] := by
    rw [sent, List.filterMap_append, sent]
    by_cases here : led = l <;> simp [Call.level?, here]
  rw [lights]
  refine ⟨told.indicator, fun l => ?_, fun l => ?_, fun l => ?_⟩
  · by_cases here : l = led
    · subst here
      simp [added]
    · simpa [added, here, Ne.symm here] using told.last l
  · by_cases here : l = led
    · subst here
      rw [added, if_pos rfl]
      refine (told.changes l).append (.singleton on) ?_
      rintro x last _ ⟨⟩ rfl
      exact same ((told.last l).symm.trans last)
    · simpa [added, Ne.symm here] using told.changes l
  · by_cases here : l = led
    · simp [sole.set, here]
    · simpa [sole.set, here] using told.lamps l

theorem worked (told : Told lit first g) (worked : Worked E lit g g') : Told lit first g' := by
  have aside : ∀ c : Call ρ δ, c.Aside → c.Dark := fun _ kind => kind.1
  cases worked with
  | still still => exact told.still still aside
  | copied before during after =>
    exact (showLed sole (((showLed sole (told.still before aside) _ _).still during) fun _ dark => dark) _ _).still after
      aside

theorem lamps_kept : KeptByLamps E (Told (ρ := ρ) (δ := δ) lit first) where
  lamp led on told := told.showLed sole led on
  watch _ _ told := ⟨told.indicator, told.last, told.changes, told.lamps⟩

end Told

/-- A lamp that is set is no part of a commit. -/
theorem committing_showLed (led : Led) (on : Bool) (g : Rig ρ σ δ) :
    Notes (fun c => c.isCommitting = false) g (g.showLed E led on) :=
  (showLed_notes E led on g).mono (by rintro _ rfl; rfl)

theorem committing_lamps (g : Rig ρ σ δ) : KeptByLamps E (Notes (fun c : Call ρ δ => c.isCommitting = false) g) where
  lamp led on notes := notes.trans (committing_showLed led on _)
  watch _ _ notes := notes

/-- What is noted of some kind after calls of another and before calls of a third stands between them. -/
theorem Notes.between {P Q R : Call ρ δ → Prop} {g h k g' : Rig ρ σ δ} (start : Notes P g h) (course : Notes Q h k)
    (finish : Notes R k g') {before after : List (Call ρ δ)} {c : Call ρ δ} (noted : g'.calls = before ++ c :: after)
    (later : g.calls <+: before) (notEarly : ¬ P c) (notLate : ¬ R c) :
    ∃ added, before = h.calls ++ added ∧ ∀ d ∈ added, Q d := by
  obtain ⟨A, startCalls, startKind⟩ := start
  obtain ⟨D, courseCalls, courseKind⟩ := course
  obtain ⟨B, finishCalls, finishKind⟩ := finish
  obtain ⟨x, rfl⟩ := later
  have whole : A ++ (D ++ B) = x ++ c :: after := by
    rw [finishCalls, courseCalls, startCalls] at noted
    simpa only [List.append_assoc, List.append_cancel_left_eq] using noted
  rw [startCalls]
  -- The call comes after the first ones, else it would be one of them, and for the same reason before the last ones.
  rcases List.append_eq_append_iff.mp whole with ⟨y, rfl, rest⟩ | ⟨y, rfl, rest⟩
  · refine ⟨y, (List.append_assoc ..).symm, fun d member => ?_⟩
    rcases List.append_eq_append_iff.mp rest with ⟨z, _, late⟩ | ⟨z, rfl, _⟩
    · exact absurd (finishKind c (late ▸ List.mem_append_right _ List.mem_cons_self)) notLate
    · exact courseKind d (List.mem_append_left _ member)
  · cases y with
    | nil => exact ⟨[], by simp, nofun⟩
    | cons d y =>
      obtain ⟨rfl, _⟩ := List.cons.inj rest
      exact absurd (startKind c (List.mem_append_right _ List.mem_cons_self)) notEarly

namespace Worked

variable {first : Led → Bool} {g h g' : Rig ρ σ δ}

theorem watch (worked : Worked E lit g g') : g'.control.watch = g.control.watch := by
  have lamp (led : Led) (on : Bool) (g : Rig ρ σ δ) : (g.showLed E led on).control.watch = g.control.watch := by
    rw [showLed_control]
    rfl
  cases worked with
  | still still => exact still.watch
  | copied before during after => rw [after.watch, lamp, during.watch, lamp, before.watch]

/-- In the work of a tick no lamp but the copy lamp changes. -/
theorem shown (worked : Worked E lit g g') {led : Led} (other : led ≠ .copyData) :
    g'.control.shown led = g.control.shown led := by
  cases worked with
  | still still => rw [still.shown]
  | copied before during after =>
    rw [after.shown, showLed_shown_of_ne other, during.shown, showLed_shown_of_ne other, before.shown]

/-- While a chunk is committed the copy lamp is lit, and the others are as they were. -/
theorem commits (sole : SoleDriver E act lit) (told : Told lit first g) (worked : Worked E lit g h)
    (last : Notes (fun c => c.isCommitting = false) h g') {before after : List (Call ρ δ)} {c : Call ρ δ}
    (noted : g'.calls = before ++ c :: after) (later : g.calls <+: before) (committing : c.isCommitting = true) :
    (sent .copyData before).getLast? = some true ∧
      ∀ led, led ≠ .copyData → (sent led before).getLast? = g.control.shown led := by
  have not : ¬ c.isCommitting = false := by simp [committing]
  have quiet {g g' : Rig ρ σ δ} (still : Still lit Call.Aside g g') : Notes (fun c => c.isCommitting = false) g g' :=
    still.calls.mono fun _ kind => kind.2
  cases worked with
  | still still =>
    obtain ⟨added, calls, kind⟩ := (quiet still).trans last
    obtain ⟨x, rfl⟩ := later
    have rest : added = x ++ c :: after := by simpa using calls.symm.trans noted
    exact absurd (kind c (rest ▸ List.mem_append_right _ List.mem_cons_self)) not
  | @copied h k _ first during final =>
    have lit : Told lit _ (h.showLed E .copyData true) :=
      (told.still first fun _ kind => kind.1).showLed sole .copyData true
    obtain ⟨added, rfl, dark⟩ := Notes.between ((quiet first).trans (committing_showLed _ _ h)) during.calls
      ((committing_showLed _ _ k).trans ((quiet final).trans last)) noted later not not
    refine ⟨?_, fun led other => ?_⟩
    · rw [sent_append_dark dark, lit.last, showLed_shown]
    · rw [sent_append_dark dark, lit.last, showLed_shown_of_ne other, first.shown]

end Worked

/-- What an event does with the lamps: it works on them as the work of a tick does, and then shows the phase if it is a
tick that comes to an end. -/
theorem happen_lamps (sole : SoleDriver E act lit) {e : Event ρ κ} {g g' : Rig ρ σ δ}
    (done : g.happen E act e = .ok g') :
    ∃ settled, Worked E lit g settled ∧
      ((∃ now, e = .tick now ∧ settled.updateLeds E now = .ok g') ∨ (∀ now, e ≠ .tick now) ∧ g' = settled) := by
  have aside (other : ∀ now, e ≠ .tick now) (still : Still lit Call.Aside g g') :
      ∃ settled, Worked E lit g settled ∧
        ((∃ now, e = .tick now ∧ settled.updateLeds E now = .ok g') ∨ (∀ now, e ≠ .tick now) ∧ g' = settled) :=
    ⟨g', .still still, Or.inr ⟨other, rfl⟩⟩
  cases e with
  | tick now =>
    obtain ⟨settled, worked, leds, _⟩ := tick_eq_ok.mp (happen_tick done).choose_spec
    exact ⟨settled, .work sole worked, Or.inl ⟨now, rfl, leds⟩⟩
  | broken => exact ⟨g', .work sole done, Or.inr ⟨nofun, rfl⟩⟩
  | command c =>
    cases done
    exact aside nofun ((Worked.orders sole g).apply c (.refl g))
  | attach k =>
    cases done
    exact aside nofun (.attach sole k g)
  | input k =>
    cases done
    exact aside nofun ⟨.of_same rfl, rfl, rfl, sole.input k _⟩
  | send | failure | storage =>
    cases done
    exact aside nofun ⟨.of_same rfl, rfl, rfl, rfl⟩

theorem Told.run (sole : SoleDriver E act lit) {params : ScanParams} {instruments : σ} {files : Storage.Tree}
    {past : List (Rig ρ σ δ × Event ρ κ)} {g : Rig ρ σ δ}
    (run : Run E act (fresh params true instruments files) past g) : Told lit (lit instruments) g := by
  induction run with
  | start => exact ⟨rfl, fun _ => rfl, fun _ => .nil, fun _ => rfl⟩
  | next _ done told =>
    obtain ⟨settled, worked, ⟨_, _, leds⟩ | ⟨_, rfl⟩⟩ := happen_lamps sole done
    · exact (Told.lamps_kept sole).updateLeds leds (told.worked sole worked)
    · exact told.worked sole worked

section Endings

variable (E act)

/-- What an event ends in: the phase and the instant of a tick that comes to an end. -/
def ending? (g : Rig ρ σ δ) : Event ρ κ → Option (Phase × Instant)
  | .tick now => (g.happen E act (.tick now)).toOption.map fun g' => (g'.control.phase, now)
  | _ => none

/-- The ticks of a run that came to an end, in order, each with the phase it ended in. -/
def endings (past : List (Rig ρ σ δ × Event ρ κ)) : List (Phase × Instant) :=
  past.filterMap fun (g, e) => ending? E act g e

variable {E act}

theorem endings_tick {now : Instant} {g g' : Rig ρ σ δ} (done : g.happen E act (.tick now) = .ok g')
    (past : List (Rig ρ σ δ × Event ρ κ)) :
    endings E act (past ++ [(g, .tick now)]) = endings E act past ++ [(g'.control.phase, now)] := by
  have ended : ending? E act g (.tick now) = some (g'.control.phase, now) := by
    rw [ending?, done]
    rfl
  simp only [endings, List.filterMap_append, List.filterMap_cons, List.filterMap_nil, ended]

theorem endings_other {e : Event ρ κ} (other : ∀ now, e ≠ .tick now) (past : List (Rig ρ σ δ × Event ρ κ))
    (g : Rig ρ σ δ) : endings E act (past ++ [(g, e)]) = endings E act past := by
  have none : ending? E act g e = none := by
    cases e with
    | tick now => exact absurd rfl (other now)
    | _ => rfl
  simp only [endings, List.filterMap_append, List.filterMap_cons, List.filterMap_nil, none, List.append_nil]

end Endings

/-- The level of a lamp at the end of the last of some ticks, each with the phase it ended in: that of the phase, which was
entered at the first of the ticks that have ended in it without a break. There is none before the first tick. -/
def shownAtEnd (fast slow : Duration) (ended : List (Phase × Instant)) (led : Led) : Option Bool :=
  ended.getLast?.bind fun (phase, now) =>
    (runStart phase ended).map fun entered => phase.pattern fast slow (entered.elapsed now) led

/-- The controller knows the phase in which the last tick ended, and when the ticks that have ended in it began. -/
inductive Watches : List (Phase × Instant) → Phase → Option Instant → Prop
  | unseen (phase : Phase) : Watches [] phase none
  | since {ended phase first} (last : ended.getLast?.map (·.1) = some phase) (start : runStart phase ended = some first) :
      Watches ended phase (some first)

/-- At the end of a tick the controller knows when its phase was entered. -/
theorem Watches.tick {ended : List (Phase × Instant)} {g : Rig ρ σ δ}
    (watches : Watches ended g.control.lastPhase g.control.entered) (now : Instant) :
    ∃ entered, (g.watchPhase now).control.entered = some entered ∧
      runStart g.control.phase (ended ++ [(g.control.phase, now)]) = some entered := by
  generalize phase : g.control.lastPhase = last at watches
  generalize since : g.control.entered = entered at watches
  -- The instant is kept only if the phase is that of the last tick, and only then does its run go on.
  cases watches with
  | unseen =>
    exact ⟨now, by rw [watchPhase, if_pos (Or.inr (by rw [since]; rfl))], runStart_concat_of_ne (by simp) now⟩
  | @since _ _ first last start =>
    by_cases same : g.control.phase = g.control.lastPhase
    · refine ⟨first, ?_, ?_⟩
      · rw [watchPhase, if_neg (by simp [same, since]), since]
      · rw [same, phase]
        exact runStart_concat_of_some start now
    · refine ⟨now, by rw [watchPhase, if_pos (Or.inl same)], runStart_concat_of_ne ?_ now⟩
      rw [last, ← phase]
      exact fun equal => same (Option.some.inj equal).symm

theorem showPhase_entered {now : Instant} {fast slow : Duration} {g : Rig ρ σ δ} :
    (g.showPhase E now fast slow).control.entered = (g.watchPhase now).control.entered := by
  simp only [showPhase, List.foldl_cons, List.foldl_nil]
  rw [showLed_control, showLed_control, showLed_control]

/-- What the controller knows and shows after some ticks have ended. Between two ticks a tick that is broken off may put
out the copy lamp. -/
structure Displays (params : ScanParams) (fast slow : Duration) (ended : List (Phase × Instant)) (c : Control) : Prop where
  params : c.params = params
  watches : Watches ended c.lastPhase c.entered
  shown : ∀ led, led ≠ .copyData → c.shown led = shownAtEnd fast slow ended led

namespace Displays

variable {params : ScanParams} {fast slow : Duration} {ended : List (Phase × Instant)} {g settled g' : Rig ρ σ δ}

theorem worked (displays : Displays params fast slow ended g.control) (worked : Worked E lit g g') :
    Displays params fast slow ended g'.control := by
  obtain ⟨isParams, _, lastPhase, entered⟩ : g'.control.params = g.control.params ∧
      g'.control.indicator = g.control.indicator ∧ g'.control.lastPhase = g.control.lastPhase ∧
      g'.control.entered = g.control.entered := by
    simpa only [Control.watch, Prod.mk.injEq] using worked.watch
  exact ⟨isParams.trans displays.params, lastPhase ▸ entered ▸ displays.watches,
    fun led other => (worked.shown other).trans (displays.shown led other)⟩

/-- A tick that comes to an end shows its phase as it is by then. -/
theorem updateLeds (displays : Displays params fast slow ended g.control)
    (isFast : params.fastBlinkPeriod.duration? = some fast) (isSlow : params.errorBlinkPeriod.duration? = some slow)
    {now : Instant} (leds : g.updateLeds E now = .ok g') :
    Displays params fast slow (ended ++ [(g'.control.phase, now)]) g'.control ∧
      ∃ entered, runStart g'.control.phase (ended ++ [(g'.control.phase, now)]) = some entered ∧
        ∀ led, g'.control.shown led = some (g'.control.phase.pattern fast slow (entered.elapsed now) led) := by
  have phase : g'.control.phase = g.control.phase := (phase_lamps _).updateLeds leds rfl
  obtain ⟨entered, watched, start⟩ := displays.watches.tick now
  have isParams : g'.control.params = params := by
    obtain ⟨⟨_, _, _, control⟩, _⟩ := updateLeds_frame leds
    rw [control]
    exact displays.params
  obtain ⟨f, s, fastIs, slowIs, shows⟩ := updateLeds_eq_ok.mp leds
  rw [displays.params] at fastIs slowIs
  cases Option.some.inj (isFast.symm.trans fastIs)
  cases Option.some.inj (isSlow.symm.trans slowIs)
  have level (led : Led) :
      g'.control.shown led = some (g'.control.phase.pattern fast slow (entered.elapsed now) led) := by
    rw [phase, shows, showPhase_shown, watched]
    rfl
  rw [← phase] at start
  refine ⟨⟨isParams, ?_, fun led _ => ?_⟩, entered, start, level⟩
  · have since : g'.control.entered = some entered := by rw [shows, showPhase_entered, watched]
    have last : g'.control.lastPhase = g'.control.phase := by rw [phase, shows, showPhase_lastPhase]
    rw [since, last]
    exact .since (by rw [List.getLast?_concat]; rfl) start
  · simp only [level, shownAtEnd, List.getLast?_concat, Option.bind_some, start, Option.map_some]

theorem run (sole : SoleDriver E act lit) (isFast : params.fastBlinkPeriod.duration? = some fast)
    (isSlow : params.errorBlinkPeriod.duration? = some slow) {indicator : Bool} {instruments : σ} {files : Storage.Tree}
    {past : List (Rig ρ σ δ × Event ρ κ)} (run : Run E act (fresh params indicator instruments files) past g) :
    Displays params fast slow (endings E act past) g.control := by
  induction run with
  | start => exact ⟨rfl, .unseen _, fun _ _ => rfl⟩
  | next _ done displays =>
    obtain ⟨settled, worked, ⟨now, rfl, leds⟩ | ⟨other, rfl⟩⟩ := happen_lamps sole done
    · rw [endings_tick done]
      exact ((displays.worked worked).updateLeds isFast isSlow leds).1
    · rw [endings_other other]
      exact displays.worked worked

end Displays

/-- If both periods of the blinking are durations and nobody else drives the lamps: no level is ever sent to a lamp that
was the one sent to it last. While a chunk is committed the copy lamp is lit, and the others are as they were at the end of
the last tick before. After each tick every lamp is at the level sent to it last, which is that of the phase, entered at
the first of the unbroken run of ticks that have ended in it; so the copy lamp is lit only in the storage error, and there
in the odd half periods since. -/
theorem lamps_tell_phase {params : ScanParams} {fast slow : Duration} {instruments : σ} {files : Storage.Tree}
    {past : List (Rig ρ σ δ × Event ρ κ)} {g g' : Rig ρ σ δ} {e : Event ρ κ} (sole : SoleDriver E act lit)
    (isFast : params.fastBlinkPeriod.duration? = some fast) (isSlow : params.errorBlinkPeriod.duration? = some slow)
    (run : Run E act (fresh params true instruments files) past g) (done : g.happen E act e = .ok g') :
    (∀ led, (sent led g'.calls).IsChain (· ≠ ·)) ∧
    (∀ before c after, g'.calls = before ++ c :: after → g.calls <+: before → c.isCommitting = true →
      (sent .copyData before).getLast? = some true ∧
        ∀ led, led ≠ .copyData → (sent led before).getLast? = shownAtEnd fast slow (endings E act past) led) ∧
    ∀ now, e = .tick now →
      ∃ entered, runStart g'.control.phase (endings E act (past ++ [(g, e)])) = some entered ∧
        (∀ led, (sent led g'.calls).getLast? = some (g'.control.phase.pattern fast slow (entered.elapsed now) led) ∧
          lit g'.instruments led = g'.control.phase.pattern fast slow (entered.elapsed now) led) ∧
        (lit g'.instruments .copyData = true ↔
          g'.control.phase = .storageError ∧ entered.elapsed now / max slow 1 % 2 = 1) := by
  have told := Told.run sole run
  have told' := Told.run sole (run.next done)
  have displays := Displays.run sole isFast isSlow run
  obtain ⟨settled, worked, shows⟩ := happen_lamps sole done
  refine ⟨told'.changes, fun before c after noted later committing => ?_, ?_⟩
  · have last : Notes (fun c => c.isCommitting = false) settled g' := by
      rcases shows with ⟨_, _, leds⟩ | ⟨_, rfl⟩
      · exact (committing_lamps settled).updateLeds leds (.of_same rfl)
      · exact .of_same rfl
    obtain ⟨copying, others⟩ := worked.commits sole told last noted later committing
    exact ⟨copying, fun led other => (others led other).trans (displays.shown led other)⟩
  · rintro now rfl
    obtain ⟨_, ⟨⟩, leds⟩ | ⟨other, _⟩ := shows
    · obtain ⟨_, entered, start, level⟩ := (displays.worked worked).updateLeds isFast isSlow leds
      have lights (led : Led) : lit g'.instruments led = g'.control.phase.pattern fast slow (entered.elapsed now) led := by
        rw [told'.lamps, level, Option.getD_some]
      exact ⟨entered, by rw [endings_tick done, start], fun led => ⟨by rw [told'.last, level], lights led⟩,
        by rw [lights, Phase.pattern_copyData]⟩
    · exact absurd rfl (other now)

/-- The panel of the rig is driven by the controller alone, whatever is done with the other instruments and the buttons. -/
theorem soleDriver_panel {act : κ → Instruments → Instruments} (apart : ∀ k i, (act k i).panel.leds = i.panel.leds) :
    SoleDriver Instruments.equipment act fun i => i.panel.leds where
  set _ _ _ := rfl
  start r _ := by cases r <;> rfl
  stop r _ := by cases r <;> rfl
  provide r i := by
    cases r with
    | sensor name =>
      obtain ⟨_, same⟩ := i.provide_sensor_eq name
      exact congrArg (·.panel.leds) same
    | _ => rfl
  freeze r i := by
    cases r with
    | sensor name =>
      obtain ⟨_, same⟩ := i.freeze_sensor_eq name
      exact congrArg (·.panel.leds) same
    | _ => rfl
  allocate {i t dirs i' t'} answer := by
    have answer : i.allocate t = .ok (dirs, i', t') := answer
    unfold Instruments.allocate at answer
    split at answer
    · cases answer
      rfl
    · obtain ⟨_, _, rest⟩ := bind_eq_ok.mp answer
      cases pure_eq_ok.mp rest
      rfl
  input := apart

/-- A scan with one chunk, and then the storage is lost while a button is held down. -/
def lostScan : List (Event Instrument (Button × Bool)) :=
  [.tick 0, .send .startScan, .tick (millis 100), .tick (millis 10200), .input (.stopScan, true), .storage {},
    .tick (millis 20400)]

theorem lamps_tell_phase_lost :
    let act : Button × Bool → Instruments → Instruments := fun b i => { i with panel := i.panel.hold b.1 b.2 }
    ∃ past g g', Run Instruments.equipment act (fresh { mandatoryClients := [] } true benchInstruments benchTree) past g ∧
      past.map (·.2) = lostScan ∧ g.happen Instruments.equipment act (.tick (millis 21500)) = .ok g' ∧
      sent .copyData g'.calls = [false, true, false, true, false, true] ∧
      (sent .copyData g'.calls).IsChain (· ≠ ·) ∧ g'.control.phase = .storageError ∧
      ∃ entered, runStart .storageError (endings Instruments.equipment act (past ++ [(g, .tick (millis 21500))])) =
          some entered ∧
        entered.elapsed (millis 21500) / millis 1000 % 2 = 1 := by
  intro act
  have played : ((play Instruments.equipment act
      (fresh { mandatoryClients := [] } true benchInstruments benchTree) lostScan).toOption.bind fun g =>
        (g.happen Instruments.equipment act (.tick (millis 21500))).toOption.map fun g' =>
          (sent .copyData g'.calls, g'.control.phase, g'.instruments.panel.leds .copyData)) =
      some ([false, true, false, true, false, true], .storageError, true) := by decide +kernel
  obtain ⟨g, before, last⟩ := Option.bind_eq_some_iff.mp played
  obtain ⟨g', ticked, seen⟩ := Option.map_eq_some_iff.mp last
  obtain ⟨copies, rest⟩ := Prod.mk.inj seen
  obtain ⟨phase, lit⟩ := Prod.mk.inj rest
  obtain ⟨past, events, run⟩ := Run.start.play (toOption_eq_some.mp before)
  have ticked := toOption_eq_some.mp ticked
  have fast :
      (ScanParams.fastBlinkPeriod { mandatoryClients := [] }).duration? = some (millis 100) := by decide +kernel
  have slow :
      (ScanParams.errorBlinkPeriod { mandatoryClients := [] }).duration? = some (millis 1000) := by decide +kernel
  have sole : SoleDriver Instruments.equipment act fun i => i.panel.leds := soleDriver_panel fun _ _ => rfl
  obtain ⟨changes, _, shows⟩ := lamps_tell_phase sole fast slow run ticked
  obtain ⟨entered, start, _, copying⟩ := shows _ rfl
  rw [phase] at start
  exact ⟨past, g, g', run, events, ticked, copies, changes _, phase, entered, start, (copying.mp lit).2⟩

end Rig

end CaptureRig
