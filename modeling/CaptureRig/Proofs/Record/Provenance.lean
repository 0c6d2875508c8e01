import CaptureRig.Proofs.Scan.Run

namespace CaptureRig

variable {ρ σ δ κ : Type}

/-- What is said of the instruments and is kept by all that is done with them. -/
structure Upkeep (E : Equipment ρ σ δ) (act : κ → σ → σ) (P : σ → Prop) : Prop where
  start : ∀ r {i}, P i → P (E.start r i)
  stop : ∀ r {i}, P i → P (E.stop r i)
  provide : ∀ r {i}, P i → P (E.provide r i)
  freeze : ∀ r {i}, P i → P (E.freeze r i).2
  setLed : ∀ led on {i}, P i → P (E.setLed led on i)
  allocate : ∀ {i t dirs j u}, E.allocate i t = .ok (dirs, j, u) → P i → P j
  act : ∀ k {i}, P i → P (act k i)

/-- A dump has been handed over by its client, at a time when the instruments were sound. -/
def Sourced (E : Equipment ρ σ δ) (P : σ → Prop) (r : ρ) (dump : δ) : Prop := ∃ i, P i ∧ (E.freeze r i).1 = dump

/-- A dump that a call has written was handed over by its client, and the instruments were sound when it was written. -/
def Call.Stems (E : Equipment ρ σ δ) (P : σ → Prop) : Call ρ δ → Prop
  | .persisted r dump dir index outcome left =>
    Sourced E P r dump ∧ ∃ i t, P i ∧ E.persist r dump i dir index t = (outcome, left)
  | _ => True

namespace Call

variable {E : Equipment ρ σ δ} {P : σ → Prop}

theorem stems_of_unwritten {c : Call ρ δ} (unwritten : c.place? = none) : c.Stems E P := by
  cases c with
  | persisted => cases unwritten
  | _ => trivial

variable (E P) in
/-- The instruments are sound, and every dump written has its source. -/
def Traced (i : σ) (calls : List (Call ρ δ)) : Prop := P i ∧ ∀ c ∈ calls, c.Stems E P

theorem Traced.append {i j : σ} {calls added : List (Call ρ δ)} (traced : Traced E P i calls) (sound : P j)
    (unwritten : ∀ c ∈ added, c.place? = none) : Traced E P j (calls ++ added) := by
  refine ⟨sound, fun c member => ?_⟩
  rcases List.mem_append.mp member with before | new
  · exact traced.2 c before
  · exact stems_of_unwritten (unwritten c new)

theorem Traced.note {i j : σ} {calls : List (Call ρ δ)} (traced : Traced E P i calls) (sound : P j) {c : Call ρ δ}
    (unwritten : c.place? = none) : Traced E P j (calls ++ [c]) :=
  traced.append sound (by simpa using unwritten)

end Call

namespace Upkeep

open Rig

variable {E : Equipment ρ σ δ} {act : κ → σ → σ} {P : σ → Prop} (upkeep : Upkeep E act P)

include upkeep

theorem freezeEach (clients : List (String × ρ)) {g : Rig ρ σ δ} (traced : Call.Traced E P g.instruments g.calls) :
    Call.Traced E P (freezeEach E clients g).2.instruments (freezeEach E clients g).2.calls ∧
      ∀ f ∈ (freezeEach E clients g).1, Sourced E P f.client f.dump := by
  induction clients generalizing g with
  | nil => exact ⟨traced, nofun⟩
  | cons entry rest ih =>
    simp only [Rig.freezeEach]
    obtain ⟨after, sourced⟩ := ih (g := { g with instruments := (E.freeze entry.2 g.instruments).2 }.note
      (.froze entry.2 (E.freeze entry.2 g.instruments).1)) (traced.note (upkeep.freeze entry.2 traced.1) rfl)
    refine ⟨after, fun f member => ?_⟩
    rcases List.mem_cons.mp member with rfl | later
    · exact ⟨g.instruments, traced.1, rfl⟩
    · exact sourced f later

omit upkeep in
theorem persistEach {dir : String} {index : Nat} {frozen : List (Chunk.Frozen ρ δ)} {g : Rig ρ σ δ}
    (sourced : ∀ f ∈ frozen, Sourced E P f.client f.dump) (traced : Call.Traced E P g.instruments g.calls) :
    Call.Traced E P (persistEach E dir index frozen g).2.instruments (persistEach E dir index frozen g).2.calls := by
  induction frozen generalizing g with
  | nil => exact traced
  | cons f rest ih =>
    obtain ⟨own, others⟩ := List.forall_mem_cons.mp sourced
    simp only [Rig.persistEach]
    refine ih others ⟨traced.1, fun c member => ?_⟩
    rcases List.mem_append.mp member with before | new
    · exact traced.2 c before
    · cases List.mem_singleton.mp new
      exact ⟨own, g.instruments, g.files, traced.1, rfl⟩

theorem stored {dir : String} {index : Nat} {stop : Bool} {g : Rig ρ σ δ}
    (traced : Call.Traced E P g.instruments g.calls) :
    Call.Traced E P (g.stored E dir index stop).instruments (g.stored E dir index stop).calls := by
  obtain ⟨frozen, sourced⟩ := upkeep.freezeEach g.registry.dumpables traced
  refine persistEach (fun f member => sourced f (List.mem_filter.mp member).1) ?_
  cases stop with
  | false => exact frozen
  | true =>
    change Call.Traced E P ((Rig.freezeEach E g.registry.dumpables g).2.stopAll E).instruments
      ((Rig.freezeEach E g.registry.dumpables g).2.stopAll E).calls
    rw [stopAll_eq]
    refine frozen.append ?_ (by simp [Call.place?])
    exact List.foldlRecOn _ _ frozen.1 fun i sound r _ => upkeep.stop r sound

theorem showLed {led : Led} {on : Bool} {g : Rig ρ σ δ} (traced : Call.Traced E P g.instruments g.calls) :
    Call.Traced E P (g.showLed E led on).instruments (g.showLed E led on).calls := by
  obtain ⟨added, calls, lamps⟩ := showLed_notes E led on g
  rw [calls]
  refine traced.append ?_ (by rintro c member; rw [lamps c member]; rfl)
  rcases showLed_instruments E led on g with unlit | lit
  · rw [unlit]
    exact traced.1
  · rw [lit]
    exact upkeep.setLed led on traced.1

theorem commitChunk {mode : ScanMode} {stop done : Bool} {g g' : Rig ρ σ δ}
    (run : g.commitChunk E mode stop = (done, g')) (traced : Call.Traced E P g.instruments g.calls) :
    Call.Traced E P g'.instruments g'.calls := by
  have concluded {h : Rig ρ σ δ} (traced : Call.Traced E P h.instruments h.calls) (dir : String) (index : Nat)
      (done : Bool) :
      Call.Traced E P (h.concluded E dir index stop done).instruments (h.concluded E dir index stop done).calls :=
    upkeep.showLed (g := h.note _) (traced.note traced.1 rfl)
  cases commitChunk_end run with
  | unallocated => exact traced
  | refused => exact concluded (upkeep.showLed traced) _ _ _
  | unsynced => exact concluded (upkeep.stored (upkeep.showLed traced)) _ _ _
  | @counted s failures h _ _ _ same =>
    rw [same]
    exact concluded (h := countCommit E s.nextChunk failures _) (upkeep.stored (upkeep.showLed traced)) _ _ _

end Upkeep

end CaptureRig
