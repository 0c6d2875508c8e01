import CaptureRig.Proofs.Record.Custody
import CaptureRig.Proofs.Scan.Run

namespace CaptureRig

variable {ρ σ δ κ α : Type}

/-- A client that logs while it is started, whatever else is done with the instruments. -/
structure Logger [DecidableEq ρ] (E : Equipment ρ σ δ) (act : κ → σ → σ) where
  client : ρ
  logging : σ → Bool
  logging_start : ∀ r i, logging (E.start r i) = (logging i || decide (r = client))
  logging_stop : ∀ r i, logging (E.stop r i) = (logging i && decide (r ≠ client))
  logging_provide : ∀ r i, logging (E.provide r i) = logging i
  logging_freeze : ∀ r i, logging (E.freeze r i).2 = logging i
  logging_setLed : ∀ led on i, logging (E.setLed led on i) = logging i
  logging_allocate : ∀ {i t dirs j u}, E.allocate i t = .ok (dirs, j, u) → logging j = logging i
  logging_act : ∀ k i, logging (act k i) = logging i

/-- Records of one kind that a client takes in while it logs. -/
structure Stream [DecidableEq ρ] (E : Equipment ρ σ δ) (act : κ → σ → σ) (α : Type) extends Logger E act where
  buffer : σ → List α
  records : δ → List α
  /-- The records that an input brings to the client. -/
  brought : κ → σ → List α
  buffer_start : ∀ r {i}, buffer i = [] → buffer (E.start r i) = []
  buffer_stop : ∀ r i, buffer (E.stop r i) = buffer i
  buffer_provide : ∀ r i, buffer (E.provide r i) = buffer i
  buffer_freeze : ∀ r i, buffer (E.freeze r i).2 = if r = client then [] else buffer i
  records_freeze : ∀ i, records (E.freeze client i).1 = buffer i
  records_of_size : ∀ {d}, E.size d = 0 → records d = []
  buffer_setLed : ∀ led on i, buffer (E.setLed led on i) = buffer i
  buffer_allocate : ∀ {i t dirs j u}, E.allocate i t = .ok (dirs, j, u) → buffer j = buffer i
  buffer_act : ∀ k i, buffer (act k i) = buffer i ++ if logging i then brought k i else []

namespace Logger

variable [DecidableEq ρ] {E : Equipment ρ σ δ} {act : κ → σ → σ} (L : Logger E act)

theorem logging_foldl_start (clients : List ρ) (i : σ) :
    L.logging (clients.foldl (fun i r => E.start r i) i) = (L.logging i || decide (L.client ∈ clients)) := by
  induction clients generalizing i with
  | nil => simp
  | cons r rest ih => 
    rw [List.foldl_cons, ih, L.logging_start]
    simp [Bool.or_assoc, eq_comm]

theorem logging_foldl_stop (clients : List ρ) (i : σ) :
    L.logging (clients.foldl (fun i r => E.stop r i) i) = (L.logging i && !decide (L.client ∈ clients)) := by
  induction clients generalizing i with
  | nil => simp
  | cons r rest ih => 
    rw [List.foldl_cons, ih, L.logging_stop]
    simp [Bool.and_assoc, eq_comm]

theorem logging_freezeEach (clients : List (String × ρ)) (g : Rig ρ σ δ) :
    L.logging (Rig.freezeEach E clients g).2.instruments = L.logging g.instruments := by
  induction clients generalizing g with
  | nil => rfl
  | cons entry rest ih =>
    simp only [Rig.freezeEach]
    rw [ih]
    exact L.logging_freeze entry.2 g.instruments

end Logger

namespace Stream

variable [DecidableEq ρ] {E : Equipment ρ σ δ} {act : κ → σ → σ} (S : Stream E act α)

/-- The records that a call hands over, each with the directory it is to be written to. -/
def handed : Call ρ δ → List (String × α)
  | .persisted r dump dir _ _ _ => if r = S.client then (S.records dump).map fun a => (dir, a) else []
  | _ => []

def custody (g : Rig ρ σ δ) : Custody α where
  phase := g.control.phase
  session := g.control.session
  logging := S.logging g.instruments
  logger := decide (S.client ∈ g.registry.loggers)
  dumpable := decide (S.client ∈ g.registry.dumpables.map (·.2))
  buffer := S.buffer g.instruments
  handed := g.calls.flatMap S.handed

/-- Only what is done with the instruments, the registry, the phase and the session matters, and dumps that are written. -/
theorem custody_eq {g g' : Rig ρ σ δ} {added : List (Call ρ δ)} (calls : g'.calls = g.calls ++ added)
    (quiet : ∀ c ∈ added, S.handed c = []) (registry : g'.registry = g.registry) :
    S.custody g' =
      { S.custody g with
        phase := g'.control.phase
        session := g'.control.session
        logging := S.logging g'.instruments
        buffer := S.buffer g'.instruments } := by
  have none : added.flatMap S.handed = [] := List.flatMap_eq_nil_iff.mpr quiet
  simp only [custody, calls, registry, List.flatMap_append, none, List.append_nil]

theorem custody_note {c : Call ρ δ} (quiet : S.handed c = []) (g : Rig ρ σ δ) : S.custody (g.note c) = S.custody g :=
  S.custody_eq (g := g) (Rig.note_calls g c) (by simpa using quiet) rfl

theorem buffer_foldl_start (clients : List ρ) {i : σ} (empty : S.buffer i = []) :
    S.buffer (clients.foldl (fun i r => E.start r i) i) = [] := by
  induction clients generalizing i with
  | nil => exact empty
  | cons r rest ih => exact ih (S.buffer_start r empty)

theorem buffer_foldl_stop (clients : List ρ) (i : σ) :
    S.buffer (clients.foldl (fun i r => E.stop r i) i) = S.buffer i := by
  induction clients generalizing i with
  | nil => rfl
  | cons r rest ih => exact (ih (E.stop r i)).trans (S.buffer_stop r i)

theorem custody_startAll {g : Rig ρ σ δ} (empty : S.buffer g.instruments = []) :
    S.custody (g.startAll E) = (S.custody g).start := by
  rw [S.custody_eq (g := g) (by rw [Rig.startAll_eq]) (by simp [handed]) (Rig.startAll_registry E g)]
  rw [Rig.startAll_eq]
  dsimp only
  rw [S.logging_foldl_start, S.buffer_foldl_start _ empty, ← empty]
  rfl

theorem custody_stopAll (g : Rig ρ σ δ) : S.custody (g.stopAll E) = (S.custody g).stop := by
  rw [S.custody_eq (g := g) (by rw [Rig.stopAll_eq]) (by simp [handed]) (Rig.stopAll_registry E g)]
  rw [Rig.stopAll_eq]
  dsimp only
  rw [S.logging_foldl_stop, S.buffer_foldl_stop]
  rfl

theorem custody_moveTo (target : Phase) (g : Rig ρ σ δ) : S.custody (g.moveTo target) = (S.custody g).moveTo target := by
  have quiet : ∀ c ∈ (if g.control.phase = target then [] else [Call.moved g.control.phase target]),
      S.handed c = [] := by
    intro c member
    split at member
    · cases member
    · rw [List.mem_singleton.mp member]
      rfl
  rw [S.custody_eq (Rig.moveTo_calls target g) quiet (Rig.moveTo_registry target g), Rig.moveTo_control,
    Rig.moveTo_instruments]
  rfl

theorem custody_fail (target : Phase) (g : Rig ρ σ δ) :
    S.custody (g.fail E target) = ((S.custody g).moveTo target).stop := by
  rw [Rig.fail, custody_stopAll, custody_moveTo]

theorem custody_showLed (led : Led) (on : Bool) (g : Rig ρ σ δ) : S.custody (g.showLed E led on) = S.custody g := by
  obtain ⟨shown, instruments, added, same, lamps⟩ := Rig.showLed_eq E led on g
  have quiet : ∀ c ∈ added, S.handed c = [] := by
    intro c member
    rw [lamps c member]
    rfl
  have calls : (g.showLed E led on).calls = g.calls ++ added := by rw [same]
  rw [S.custody_eq calls quiet (Rig.showLed_registry E led on g), Rig.showLed_phase, Rig.showLed_session]
  rcases Rig.showLed_instruments E led on g with unlit | lit
  · rw [unlit]
    rfl
  · rw [lit, S.logging_setLed, S.buffer_setLed]
    rfl

/-- The records of a stream among frozen dumps. -/
def dumped (frozen : List (Chunk.Frozen ρ δ)) : List α :=
  frozen.flatMap fun f => if f.client = S.client then S.records f.dump else []

/-- A freeze empties the buffer into the dumps, however often the client is frozen. -/
theorem freezeEach_buffer (clients : List (String × ρ)) (g : Rig ρ σ δ) :
    S.buffer (Rig.freezeEach E clients g).2.instruments =
        (if S.client ∈ clients.map (·.2) then [] else S.buffer g.instruments) ∧
      S.dumped (Rig.freezeEach E clients g).1 =
        if S.client ∈ clients.map (·.2) then S.buffer g.instruments else [] := by
  induction clients generalizing g with
  | nil => exact ⟨rfl, rfl⟩
  | cons entry rest ih =>
    simp only [Rig.freezeEach]
    obtain ⟨left, taken⟩ := ih ({ g with instruments := (E.freeze entry.2 g.instruments).2 }.note
      (.froze entry.2 (E.freeze entry.2 g.instruments).1))
    rw [dumped, List.flatMap_cons, ← dumped, left, taken]
    simp only [Rig.note_instruments, S.buffer_freeze, List.map_cons, List.mem_cons]
    by_cases same : entry.2 = S.client
    · simp [same, S.records_freeze]
    · have other : S.client ≠ entry.2 := fun e => same e.symm
      simp only [same, other, if_false, false_or, List.nil_append, and_self]

theorem dumped_filter (frozen : List (Chunk.Frozen ρ δ)) :
    S.dumped (frozen.filter fun f => E.size f.dump != 0) = S.dumped frozen := by
  induction frozen with
  | nil => rfl
  | cons f rest ih =>
    rw [List.filter_cons]
    split
    · simp only [dumped, List.flatMap_cons] at ih ⊢
      rw [ih]
    · rename_i empty
      have none : S.records f.dump = [] := S.records_of_size (by simpa using empty)
      simp only [dumped, List.flatMap_cons, none, ite_self, List.nil_append] at ih ⊢
      exact ih

theorem handed_persistEach (dir : String) (index : Nat) (frozen : List (Chunk.Frozen ρ δ)) (g : Rig ρ σ δ) :
    (Rig.persistEach E dir index frozen g).2.calls.flatMap S.handed =
      g.calls.flatMap S.handed ++ (S.dumped frozen).map fun a => (dir, a) := by
  induction frozen generalizing g with
  | nil => simp [Rig.persistEach, dumped]
  | cons f rest ih =>
    simp only [Rig.persistEach]
    rw [ih]
    simp only [Rig.note_calls, List.flatMap_append, dumped, List.flatMap_cons, List.map_append,
      List.append_assoc, handed]
    split <;> rfl

section Commit

variable {g : Rig ρ σ δ} (owned : S.buffer g.instruments ≠ [] → S.client ∈ g.registry.dumpables.map (·.2))

include owned

theorem dumped_gatheredDumps : S.dumped (g.gatheredDumps E) = S.buffer g.instruments := by
  rw [Rig.gatheredDumps, dumped_filter, (S.freezeEach_buffer _ _).2]
  split
  · rfl
  · rename_i absent
    exact (Decidable.not_not.mp (mt owned absent)).symm

theorem custody_gathered (stop : Bool) :
    S.custody (g.gathered E stop) =
      { S.custody g with
        logging := (S.custody g).logging && !(stop && (S.custody g).logger)
        buffer := [] } := by
  have quiet : ∀ c ∈ (Rig.freezeEach E g.registry.dumpables g).1.map fun f => Call.froze f.client f.dump,
      S.handed c = [] := by simp [handed]
  have empty : S.buffer (Rig.freezeEach E g.registry.dumpables g).2.instruments = [] := by
    rw [(S.freezeEach_buffer _ _).1]
    split
    · rfl
    · rename_i absent
      exact Decidable.not_not.mp (mt owned absent)
  have frozen : S.custody (Rig.freezeEach E g.registry.dumpables g).2 = { S.custody g with buffer := [] } := by
    rw [S.custody_eq (g := g) (by rw [Rig.freezeEach_eq]) quiet (by rw [Rig.freezeEach_eq]), S.logging_freezeEach, empty,
      Rig.freezeEach_eq]
    rfl
  cases stop with
  | false =>
    change S.custody (Rig.freezeEach E g.registry.dumpables g).2 = _
    rw [frozen, Bool.false_and, Bool.not_false, Bool.and_true]
  | true =>
    change S.custody ((Rig.freezeEach E g.registry.dumpables g).2.stopAll E) = _
    rw [custody_stopAll, frozen]
    rfl

theorem custody_stored (dir : String) (index : Nat) (stop : Bool) :
    S.custody (g.stored E dir index stop) = (S.custody g).store dir stop := by
  have gathered := S.custody_gathered owned stop
  have same : S.custody (g.stored E dir index stop) =
      { S.custody (g.gathered E stop) with handed := (g.stored E dir index stop).calls.flatMap S.handed } := by
    rw [Rig.stored, Rig.persistEach_eq]
    rfl
  have before : (g.gathered E stop).calls.flatMap S.handed = (S.custody g).handed := congrArg Custody.handed gathered
  rw [same, Rig.stored, handed_persistEach, before, dumped_gatheredDumps S owned, gathered]
  rfl

theorem custody_commit (dir : String) (index : Nat) (stop : Bool) :
    S.custody (g.commit E dir index stop).2 = (S.custody g).store dir stop ∨
      (∃ e, (g.commit E dir index stop).1 = .error e) ∧ S.custody (g.commit E dir index stop).2 = S.custody g := by
  rcases Rig.commit_cases E dir index stop g with ⟨e, _, run⟩ | ⟨_, ⟨e, run⟩ | ⟨report, run⟩⟩
  · rw [run]
    exact Or.inr ⟨⟨e, rfl⟩, rfl⟩
  · rw [run]
    exact Or.inl (S.custody_stored owned dir index stop)
  · rw [run]
    exact Or.inl (S.custody_stored owned dir index stop)

theorem custody_tried (dir : String) (index : Nat) (stop : Bool) :
    S.custody (g.tried E dir index stop).2 = (S.custody g).store dir stop ∨
      (∃ e, (g.tried E dir index stop).1 = .error e) ∧ S.custody (g.tried E dir index stop).2 = S.custody g := by
  have lit : S.buffer (g.showLed E .copyData true).instruments = S.buffer g.instruments :=
    congrArg Custody.buffer (S.custody_showLed .copyData true g)
  simp only [Rig.tried, custody_showLed]
  rw [S.custody_note rfl, ← S.custody_showLed .copyData true g]
  refine S.custody_commit ?_ dir index stop
  rw [lit, Rig.showLed_registry]
  exact owned

/-- What the controller's commit does to the records of a stream. -/
theorem custody_commitChunk {mode : ScanMode} {stop done : Bool} {g' : Rig ρ σ δ}
    (run : g.commitChunk E mode stop = (done, g')) :
    (∃ s, g.control.session = some s ∧ S.custody g' =
      { (S.custody g).store (s.dir mode) stop with session := some (if done then s.committed mode else s) }) ∨
      done = false ∧ S.custody g' = S.custody g := by
  cases present : g.control.session with
  | none =>
    simp only [Rig.commitChunk, present, Prod.mk.injEq] at run
    exact Or.inr ⟨run.1.symm, by rw [run.2]⟩
  | some s =>
    rw [Rig.commitChunk_eq E present] at run
    dsimp only at run
    have tried := S.custody_tried owned (s.dir mode) s.nextChunk stop
    have session : (S.custody g).session = some s := present
    cases result : (g.tried E (s.dir mode) s.nextChunk stop).1 with
    | ok report =>
      rw [result] at run tried
      cases run
      rcases tried with stored | ⟨⟨_, failed⟩, _⟩
      · exact Or.inl ⟨s, rfl, by rw [← stored]; rfl⟩
      · cases failed
    | error e =>
      rw [result] at run
      cases run
      refine tried.imp (fun stored => ⟨s, rfl, ?_⟩) fun same => ⟨rfl, same.2⟩
      rw [stored]
      simp only [Custody.store, session, Bool.false_eq_true, if_false]

end Commit

end Stream

end CaptureRig
