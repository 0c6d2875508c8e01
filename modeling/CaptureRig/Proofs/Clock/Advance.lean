import CaptureRig.Proofs.Clock.Correction

namespace CaptureRig.Clock

/-- A call on an authority: a sample to correct, or a request for the time. -/
inductive Query where
  | correct (sensor : UInt64)
  | time
  deriving Repr, DecidableEq

namespace Authority

/-- The answer to a call, where `now` is what the system clock shows. -/
def answer (a : Authority) (now : UInt64) : Query → UInt64 × Authority
  | .correct sensor => a.correctAt sensor now
  | .time => (a.time now, a)

/-- Answer calls one after another, each with what the system clock shows when it is made. A call that does not look at
the system clock may be given what it showed before. -/
def answerEach : List (Query × UInt64) → Authority → List UInt64 × Authority
  | [], a => ([], a)
  | (q, now) :: rest, a =>
    let (t, a) := a.answer now q
    let (ts, a) := answerEach rest a
    (t :: ts, a)

theorem length_answerEach (calls : List (Query × UInt64)) (a : Authority) :
    (answerEach calls a).1.length = calls.length := by
  induction calls generalizing a with
  | nil => rfl
  | cons call rest ih => simp only [answerEach, List.length_cons, ih]

theorem answerEach_append (before after : List (Query × UInt64)) (a : Authority) :
    answerEach (before ++ after) a =
      ((answerEach before a).1 ++ (answerEach after (answerEach before a).2).1,
        (answerEach after (answerEach before a).2).2) := by
  induction before generalizing a with
  | nil => rfl
  | cons call rest ih => simp only [List.cons_append, answerEach, ih]

theorem time_of_unfixed {a : Authority} (unknown : a.offset = none) (now : UInt64) : a.time now = now := by
  simp [time, unknown]

theorem time_of_fixed {a : Authority} (named : a.primary.isSome = true) {offset : Int} (known : a.offset = some offset)
    (now : UInt64) : a.time now = a.latest := by
  have named : a.primary.isNone = false := by simpa using named
  simp [time, known, named]

/-- The sample that fixes the offset is given what the system clock shows, if that is in the range of offsets: the two
clocks are spliced without a step. -/
theorem shifted_offsetFrom {sensor now : UInt64} (possible : usable sensor = true)
    (small : (now.toNat : Int) ≤ highestOffset) : shifted sensor (offsetFrom sensor now) = now := by
  have within : (sensor.toNat : Int) ≤ highestOffset := of_decide_eq_true possible
  have difference : offsetFrom sensor now = (now.toNat : Int) - sensor.toNat := by
    refine clamp_of_within ?_ ?_ <;> unfold lowestOffset highestOffset at * <;> omega
  have time := toNat_shifted sensor (offsetFrom sensor now)
  rw [difference, clamp_of_within (by omega) (by unfold highestOffset at small; unfold highestTime; omega)] at time
  rw [difference]
  exact UInt64.toNat_inj.mp (by omega)

/-- No time that has been given lies ahead: of what the system clock showed last, as long as no sample has fixed the
offset, and of the latest corrected time from then on. -/
structure Abreast (a : Authority) (now : UInt64) (given : List UInt64) : Prop where
  named : a.primary.isSome = true
  unfixed : a.offset = none → ∀ t ∈ given, t ≤ now
  fixed : ∀ offset, a.offset = some offset → ∀ t ∈ given, t ≤ a.latest

namespace Abreast

variable {a : Authority} {now later : UInt64} {given : List UInt64} (abreast : Abreast a now given)

include abreast

/-- The time that is shown is at least every time that has been given. -/
theorem le_time (forward : now ≤ later) : ∀ t ∈ given, t ≤ a.time later := by
  intro t member
  cases known : a.offset with
  | none =>
    rw [time_of_unfixed known]
    exact UInt64.le_trans (abreast.unfixed known t member) forward
  | some offset =>
    rw [time_of_fixed abreast.named known]
    exact abreast.fixed offset known t member

/-- The time that is shown lies ahead of nothing that comes after. -/
theorem ask (forward : now ≤ later) : Abreast a later (given ++ [a.time later]) where
  named := abreast.named
  unfixed unknown := by
    rw [List.forall_mem_append, List.forall_mem_singleton, time_of_unfixed unknown]
    exact ⟨fun t member => UInt64.le_trans (abreast.unfixed unknown t member) forward, UInt64.le_refl later⟩
  fixed offset known := by
    rw [List.forall_mem_append, List.forall_mem_singleton, time_of_fixed abreast.named known]
    exact ⟨abreast.fixed offset known, UInt64.le_refl a.latest⟩

/-- A sample that is corrected by an offset is not ahead of the latest, if nothing before it was. -/
theorem apply {sensor : UInt64} {offset : Int} (behind : ∀ t ∈ given, t ≤ max a.latest (shifted sensor offset)) :
    Abreast (a.apply sensor offset).2 later (given ++ [(a.apply sensor offset).1]) where
  named := abreast.named
  unfixed := nofun
  fixed _ _ := by
    rw [List.forall_mem_append, List.forall_mem_singleton]
    exact ⟨behind, Std.right_le_max⟩

theorem correct (forward : now ≤ later) (small : (later.toNat : Int) ≤ highestOffset) (sensor : UInt64) :
    Abreast (a.correctAt sensor later).2 later (given ++ [(a.correctAt sensor later).1]) := by
  unfold correctAt
  split
  · -- The offset is known: the latest time can only grow.
    rename_i offset known
    refine abreast.apply fun t member => ?_
    exact UInt64.le_trans (abreast.fixed offset known t member) Std.left_le_max
  rename_i unknown
  have behind : ∀ t ∈ given, t ≤ later :=
    fun t member => UInt64.le_trans (abreast.unfixed unknown t member) forward
  split
  · -- The sample fixes the offset, and is itself given what the system clock shows.
    rename_i possible
    refine abreast.apply fun t member => ?_
    rw [shifted_offsetFrom possible small]
    exact UInt64.le_trans (behind t member) Std.right_le_max
  · -- The sample is out of range and given what the system clock shows.
    refine ⟨abreast.named, fun _ => ?_, fun offset known => ?_⟩
    · rw [List.forall_mem_append, List.forall_mem_singleton]
      exact ⟨behind, UInt64.le_refl later⟩
    · cases unknown.symm.trans known

theorem answer (forward : now ≤ later) (small : (later.toNat : Int) ≤ highestOffset) (q : Query) :
    Abreast (a.answer later q).2 later (given ++ [(a.answer later q).1]) := by
  cases q with
  | correct sensor => exact abreast.correct forward small sensor
  | time => exact abreast.ask forward

theorem answerEach {calls : List (Query × UInt64)} (forward : (now :: calls.map (·.2)).Pairwise (· ≤ ·))
    (small : ∀ c ∈ calls, (c.2.toNat : Int) ≤ highestOffset) :
    ∃ last ∈ now :: calls.map (·.2), Abreast (answerEach calls a).2 last (given ++ (answerEach calls a).1) := by
  induction calls generalizing a now given with
  | nil => exact ⟨now, List.mem_singleton_self now, by simpa only [Authority.answerEach, List.append_nil]⟩
  | cons call rest ih =>
    obtain ⟨q, next⟩ := call
    obtain ⟨ordered, forward⟩ := List.pairwise_cons.mp forward
    obtain ⟨first, others⟩ := List.forall_mem_cons.mp small
    have answered := abreast.answer (ordered next (List.mem_cons_self ..)) first q
    obtain ⟨last, among, whole⟩ := ih answered forward others
    refine ⟨last, List.mem_cons_of_mem _ among, ?_⟩
    simpa only [Authority.answerEach, List.append_assoc, List.singleton_append] using whole

end Abreast

/-- An authority whose primary source is named first, and then asked for the time and given samples to correct in
whatever order, answers every call. As long as the system clock does not step back and stays in the range of offsets,
every time it shows is at least every time it has given before, be that shown or corrected. -/
theorem time_never_steps_back (name : String) {calls : List (Query × UInt64)}
    (forward : (calls.map (·.2)).Pairwise (· ≤ ·)) (small : ∀ c ∈ calls, (c.2.toNat : Int) ≤ Int64.maxValue.toInt) :
    ∃ answers a, answerEach calls (({} : Authority).designate name).2 = (answers, a) ∧
      answers.length = calls.length ∧
      ∀ before now after, calls = before ++ (.time, now) :: after →
        ∃ earlier t later, answers = earlier ++ t :: later ∧ earlier.length = before.length ∧ ∀ s ∈ earlier, s ≤ t := by
  refine ⟨_, _, rfl, length_answerEach .., ?_⟩
  rintro before now after rfl
  rw [List.map_append, List.map_cons, List.pairwise_append] at forward
  obtain ⟨forward, _, across⟩ := forward
  have fresh : Abreast (({} : Authority).designate name).2 0 [] := ⟨rfl, fun _ => nofun, fun _ => nofun⟩
  have readings : (0 :: before.map (·.2)).Pairwise (· ≤ ·) :=
    List.pairwise_cons.mpr ⟨fun _ _ => UInt64.zero_le .., forward⟩
  obtain ⟨last, among, abreast⟩ := fresh.answerEach readings fun c member => small c (List.mem_append_left _ member)
  have ordered : last ≤ now := by
    rcases List.mem_cons.mp among with rfl | member
    · exact UInt64.zero_le ..
    · exact across last member now (List.mem_cons_self ..)
  rw [answerEach_append]
  exact ⟨_, _, _, rfl, length_answerEach .., abreast.le_time ordered⟩

/-- Requests for the time before any sample and after each kind of it: one out of range, the one that fixes the offset,
a late one that would be before the beginning of time, one that is ahead and one that is behind it. -/
def splicedCalls : List (Query × UInt64) :=
  [(.time, 5), (.correct 9223372036854775808, 6), (.correct 1000, 9), (.time, 9), (.correct 10, 9), (.time, 9),
    (.correct 4000, 12), (.correct 2000, 12), (.time, 20)]

theorem time_never_steps_back_spliced :
    ∃ a earlier, answerEach splicedCalls (({} : Authority).designate "lidar").2 = (earlier ++ [3009], a) ∧
      earlier = [5, 6, 9, 9, 0, 9, 3009, 1009] ∧ ∀ s ∈ earlier, s ≤ 3009 := by
  have forward : (splicedCalls.map (·.2)).Pairwise (· ≤ ·) := by decide
  have small : ∀ c ∈ splicedCalls, (c.2.toNat : Int) ≤ Int64.maxValue.toInt := by decide
  obtain ⟨answers, a, run, _, shown⟩ := time_never_steps_back "lidar" forward small
  obtain ⟨earlier, t, later, split, length, ahead⟩ := shown (splicedCalls.take 8) 20 [] rfl
  have listed : answers = [5, 6, 9, 9, 0, 9, 3009, 1009] ++ [3009] := by
    have all : (answerEach splicedCalls (({} : Authority).designate "lidar").2).1 =
        [5, 6, 9, 9, 0, 9, 3009, 1009, 3009] := by decide
    rwa [run] at all
  obtain ⟨rfl, last⟩ := List.append_inj (split.symm.trans listed) length
  obtain ⟨rfl, rfl⟩ := List.cons.inj last
  exact ⟨a, _, by rw [run, listed], rfl, ahead⟩

end Authority

end CaptureRig.Clock
