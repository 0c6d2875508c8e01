import CaptureRig.Proofs.Record.Stream

namespace CaptureRig

variable {ρ σ δ κ α : Type}

namespace Stream

variable [DecidableEq ρ] {E : Equipment ρ σ δ} {act : κ → σ → σ} (S : Stream E act α)

def Balanced (accepted : List (ScanMode × α)) (g : Rig ρ σ δ) : Prop :=
  ∃ filed pending, filed ++ pending = accepted ∧ (S.custody g).Keeps filed pending

namespace Balanced

variable {S} {accepted : List (ScanMode × α)} {g g' : Rig ρ σ δ} (balanced : S.Balanced accepted g)

include balanced

theorem of_same (same : S.custody g' = S.custody g) : S.Balanced accepted g' := by
  unfold Balanced
  rw [same]
  exact balanced

theorem fail {target : Phase} (error : target.isError = true) : S.Balanced accepted (g.fail E target) := by
  obtain ⟨filed, pending, whole, keeps⟩ := balanced
  refine ⟨filed, pending, whole, ?_⟩
  rw [custody_fail]
  exact keeps.fail error

theorem moveTo {target : Phase} (ahead : target ≠ .waitForResources)
    (running : g.control.phase.isError = false) (capture : target.capture? = g.control.phase.capture?) :
    S.Balanced accepted (g.moveTo target) := by
  obtain ⟨filed, pending, whole, keeps⟩ := balanced
  refine ⟨filed, pending, whole, ?_⟩
  rw [custody_moveTo]
  refine keeps.moveTo ahead (fun p member => ?_) fun idle => keeps.quiet (capture ▸ idle)
  rw [capture]
  rcases keeps.current p member with same | error
  · exact Or.inl same
  · cases running.symm.trans error

theorem begin (deadlines : Deadlines) {target : Phase} {mode : ScanMode} (idle : g.control.phase.capture? = none)
    (running : g.control.phase.isError = false) (capture : target.capture? = some mode) :
    S.Balanced accepted (((g.startAll E).setDeadlines deadlines).moveTo target) := by
  obtain ⟨filed, pending, whole, keeps⟩ := balanced
  refine ⟨filed, pending, whole, ?_⟩
  have empty : S.buffer g.instruments = [] := by
    rw [show S.buffer g.instruments = pending.map (·.2) from keeps.buffer.symm, keeps.pending_nil idle running]
    rfl
  have started : S.custody ((g.startAll E).setDeadlines deadlines) = (S.custody g).start := S.custody_startAll empty
  rw [custody_moveTo, started]
  exact keeps.begin idle running capture

theorem owned : S.buffer g.instruments ≠ [] → S.client ∈ g.registry.dumpables.map (·.2) := by
  obtain ⟨filed, pending, _, keeps⟩ := balanced
  intro some
  exact of_decide_eq_true (keeps.owned some)

/-- A commit that succeeds leaves nothing pending, and nothing logging if it is the last of a capture. -/
theorem commitChunk_done {mode : ScanMode} {stop : Bool} (capture : g.control.phase.capture? = some mode)
    (run : g.commitChunk E mode stop = (true, g')) :
    (S.custody g').Keeps accepted [] ∧ (stop = true → S.logging g'.instruments = false) := by
  have owned := balanced.owned
  obtain ⟨filed, pending, rfl, keeps⟩ := balanced
  rcases S.custody_commitChunk owned run with ⟨s, present, stored⟩ | ⟨failed, _⟩
  · have count := (keeps.store present capture stop).count present mode
    refine ⟨by rw [stored]; exact count, ?_⟩
    rintro rfl
    have logging := congrArg Custody.logging stored
    exact logging.trans (keeps.store_logging (s.dir mode))
  · cases failed

theorem commitChunk_failed {mode : ScanMode} {stop : Bool} (capture : g.control.phase.capture? = some mode)
    (run : g.commitChunk E mode stop = (false, g')) : S.Balanced accepted g' := by
  have owned := balanced.owned
  obtain ⟨filed, pending, rfl, keeps⟩ := balanced
  rcases S.custody_commitChunk owned run with ⟨s, present, stored⟩ | ⟨_, same⟩
  · refine ⟨filed ++ pending, [], List.append_nil _, ?_⟩
    have session : (S.custody g).session = some s := present
    have store := keeps.store present capture stop
    rw [stored]
    simpa only [Custody.store, session, Bool.false_eq_true, if_false] using store
  · exact ⟨filed, pending, rfl, same ▸ keeps⟩

end Balanced

/-- The records accepted in a run, each with the way of capture that was under way. -/
def accepted (past : List (Rig ρ σ δ × Event ρ κ)) : List (Option ScanMode × α) :=
  past.flatMap fun (g, e) =>
    match e with
    | .input k =>
      if S.logging g.instruments then (S.brought k g.instruments).map fun a => (g.control.phase.capture?, a) else []
    | _ => []

/-- An attachment is refused, or it adds what the handle declares. -/
theorem custody_attach (h : Handle ρ) (g : Rig ρ σ δ) :
    S.custody (g.attach E h).2 = S.custody g ∨
      S.custody (g.attach E h).2 =
        { S.custody g with
          logger := (S.custody g).logger || decide (h.logger = some S.client)
          dumpable := (S.custody g).dumpable || decide (h.dumpable = some S.client) } := by
  rcases Rig.attach_cases E h g with refused | ⟨registry, instruments, attached, loggers, dumpables, clock⟩
  · exact Or.inl (by rw [refused])
  right
  have listed : decide (S.client ∈ registry.loggers) =
      (decide (S.client ∈ g.registry.loggers) || decide (h.logger = some S.client)) := by
    simp only [loggers, List.mem_append, Option.mem_toList, Bool.decide_or]
  have frozen : decide (S.client ∈ registry.dumpables.map (·.2)) =
      (decide (S.client ∈ g.registry.dumpables.map (·.2)) || decide (h.dumpable = some S.client)) := by
    simp only [dumpables, List.map_append, List.mem_append, Bool.decide_or]
    cases h.dumpable <;> simp [eq_comm]
  have quiet : ((h.timestampConsumer.map Call.provided).toList : List (Call ρ δ)).flatMap S.handed = [] := by
    cases h.timestampConsumer <;> rfl
  have same : S.logging instruments = S.logging g.instruments ∧ S.buffer instruments = S.buffer g.instruments := by
    rcases clock with rfl | ⟨r, rfl⟩
    · exact ⟨rfl, rfl⟩
    · exact ⟨S.logging_provide r _, S.buffer_provide r _⟩
  rw [attached]
  simp only [custody, listed, frozen, same.1, same.2, List.flatMap_append, quiet, List.append_nil]

variable {S} in
theorem Balanced.attach {accepted : List (ScanMode × α)} {g : Rig ρ σ δ} (balanced : S.Balanced accepted g)
    {h : Handle ρ} (pair : h.logger = some S.client → h.dumpable = some S.client) :
    S.Balanced accepted (g.attach E h).2 := by
  rcases S.custody_attach h g with refused | attached
  · exact balanced.of_same refused
  · obtain ⟨filed, pending, whole, keeps⟩ := balanced
    refine ⟨filed, pending, whole, ?_⟩
    rw [attached]
    exact keeps.attach fun logger => decide_eq_true (pair (of_decide_eq_true logger))

variable {S} in
/-- What an input brings to a client is taken if the client logs, which it does only during a capture. -/
theorem Balanced.take {accepted : List (ScanMode × α)} {g : Rig ρ σ δ} (balanced : S.Balanced accepted g) (k : κ) :
    ∃ more, S.accepted [(g, Event.input k)] = more.map (Prod.map some id) ∧
      S.Balanced (accepted ++ more) { g with instruments := act k g.instruments } := by
  obtain ⟨filed, pending, rfl, keeps⟩ := balanced
  have after : S.custody { g with instruments := act k g.instruments } =
      { S.custody g with
        buffer := S.buffer g.instruments ++ if S.logging g.instruments then S.brought k g.instruments else [] } := by
    simp only [custody, S.logging_act, S.buffer_act]
  cases logging : S.logging g.instruments with
  | false =>
    refine ⟨[], by simp [Stream.accepted, logging], filed, pending, (List.append_nil _).symm, ?_⟩
    rw [after, logging]
    simp only [Bool.false_eq_true, if_false, List.append_nil]
    exact keeps
  | true =>
    cases capture : g.control.phase.capture? with
    | none => cases logging.symm.trans (keeps.quiet capture)
    | some mode =>
      refine ⟨(S.brought k g.instruments).map fun a => (mode, a), ?_, filed, _, (List.append_assoc ..).symm, ?_⟩
      · simp [Stream.accepted, logging, capture]
      · rw [after, logging]
        exact keeps.take capture logging _

/-- The records that a call has written, each with the directory it was written to. -/
def written : Call ρ δ → List (String × α)
  | .persisted r dump dir _ (.wrote _) _ => if r = S.client then (S.records dump).map fun a => (dir, a) else []
  | _ => []

end Stream

end CaptureRig
