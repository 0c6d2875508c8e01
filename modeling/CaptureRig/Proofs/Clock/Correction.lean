import CaptureRig.Clock.Authority
import Mathlib

namespace CaptureRig.Clock

theorem clamp_mono (low high : Int) {x y : Int} (ordered : x ≤ y) : clamp low high x ≤ clamp low high y := by
  unfold clamp
  omega

theorem clamp_of_within {low high x : Int} (lower : low ≤ x) (upper : x ≤ high) : clamp low high x = x := by
  unfold clamp
  omega

/-- A number in a word of so many bits with a sign, if it fits. -/
def signed? (bits : Nat) (x : Int) : Option Int :=
  if -2 ^ (bits - 1) ≤ x ∧ x < 2 ^ (bits - 1) then some x else none

/-- A number in a word of so many bits without a sign, if it fits. -/
def unsigned? (bits : Nat) (x : Int) : Option Nat :=
  if 0 ≤ x ∧ x < 2 ^ bits then some x.toNat else none

namespace Authority

theorem usable_iff (sensor : UInt64) : usable sensor = true ↔ (sensor.toNat : Int) ≤ Int64.maxValue.toInt := by
  rw [usable, decide_eq_true_iff, Int64.toInt_maxValue]
  rfl

theorem toNat_shifted (sensor : UInt64) (offset : Int) :
    ((shifted sensor offset).toNat : Int) = clamp 0 highestTime (sensor.toNat + offset) := by
  have bounds : 0 ≤ clamp 0 highestTime (sensor.toNat + offset) ∧
      clamp 0 highestTime (sensor.toNat + offset) ≤ 18446744073709551615 := by
    unfold clamp highestTime
    omega
  rw [shifted, UInt64.toNat_ofNat']
  omega

theorem shifted_mono (offset : Int) {s t : UInt64} (ordered : s ≤ t) : shifted s offset ≤ shifted t offset := by
  have numbers : s.toNat ≤ t.toNat := ordered
  have moved := clamp_mono 0 highestTime (by omega : (s.toNat : Int) + offset ≤ t.toNat + offset)
  rw [← toNat_shifted, ← toNat_shifted] at moved
  exact Int.ofNat_le.mp moved

theorem offsetFrom_bounds (sensor now : UInt64) :
    lowestOffset ≤ offsetFrom sensor now ∧ offsetFrom sensor now ≤ highestOffset := by
  unfold offsetFrom clamp lowestOffset highestOffset
  omega

/-- Correction with a known offset, in words: the sum is taken in 128 bits with a sign. -/
def applied? (a : Authority) (sensor : UInt64) (offset : Int) : Option (UInt64 × Authority) := do
  let sum ← signed? 128 (sensor.toNat + offset)
  let corrected ← (unsigned? 64 (clamp 0 highestTime sum)).map UInt64.ofNat
  return (corrected, { a with offset := some offset, latest := max a.latest corrected })

/-- Correction in words: the difference that fixes the offset is taken in 128 bits with a sign, the offset itself is
kept in 64. -/
def correctAt? (a : Authority) (sensor now : UInt64) : Option (UInt64 × Authority) :=
  match a.offset with
  | some offset => a.applied? sensor offset
  | none =>
    if usable sensor then do
      let difference ← signed? 128 ((now.toNat : Int) - sensor.toNat)
      let offset ← signed? 64 (clamp lowestOffset highestOffset difference)
      a.applied? sensor offset
    else some (now, a)

theorem applied?_eq (a : Authority) (sensor : UInt64) {offset : Int} (lower : lowestOffset ≤ offset)
    (upper : offset ≤ highestOffset) : a.applied? sensor offset = some (a.apply sensor offset) := by
  have small := sensor.toNat_lt
  unfold lowestOffset at lower
  unfold highestOffset at upper
  have sum : signed? 128 (sensor.toNat + offset) = some (sensor.toNat + offset) := if_pos (by omega)
  have time : unsigned? 64 (clamp 0 highestTime (sensor.toNat + offset)) =
      some (clamp 0 highestTime (sensor.toNat + offset)).toNat := by
    refine if_pos ?_
    unfold clamp highestTime
    omega
  rw [applied?, sum, Option.bind_eq_bind, Option.bind_some, time]
  rfl

/-- No intermediate value overflows, as long as the offset has been kept in its word. -/
theorem correctAt?_eq (a : Authority) (sensor now : UInt64)
    (kept : ∀ offset, a.offset = some offset → lowestOffset ≤ offset ∧ offset ≤ highestOffset) :
    a.correctAt? sensor now = some (a.correctAt sensor now) := by
  unfold correctAt? correctAt
  cases fixed : a.offset with
  | some offset =>
    obtain ⟨lower, upper⟩ := kept offset fixed
    exact applied?_eq a sensor lower upper
  | none =>
    cases possible : usable sensor with
    | false => rfl
    | true =>
      obtain ⟨lower, upper⟩ := offsetFrom_bounds sensor now
      have early := sensor.toNat_lt
      have late := now.toNat_lt
      have difference : signed? 128 ((now.toNat : Int) - sensor.toNat) = some ((now.toNat : Int) - sensor.toNat) :=
        if_pos (by omega)
      have offset : signed? 64 (offsetFrom sensor now) = some (offsetFrom sensor now) := by
        refine if_pos ?_
        unfold lowestOffset at lower
        unfold highestOffset at upper
        omega
      simp only [difference, Option.bind_eq_bind, Option.bind_some, if_true]
      rw [← offsetFrom, offset, Option.bind_some]
      exact applied?_eq a sensor lower upper

/-- Correct samples one after another, each with what the system clock shows when it comes. -/
def correctEach : List (UInt64 × UInt64) → Authority → List UInt64 × Authority
  | [], a => ([], a)
  | (sensor, now) :: rest, a =>
    let (time, a) := a.correctAt sensor now
    let (times, a) := correctEach rest a
    (time :: times, a)

/-- Correct samples one after another in words. -/
def correctEach? : List (UInt64 × UInt64) → Authority → Option (List UInt64 × Authority)
  | [], a => some ([], a)
  | (sensor, now) :: rest, a => do
    let (time, a) ← a.correctAt? sensor now
    let (times, a) ← correctEach? rest a
    return (time :: times, a)

theorem correctAt_fixed {a : Authority} {offset : Int} (fixed : a.offset = some offset) (sensor now : UInt64) :
    a.correctAt sensor now =
      (shifted sensor offset, { a with latest := max a.latest (shifted sensor offset) }) := by
  rw [correctAt, fixed]
  simp only [apply, ← fixed]

theorem correctAt_unusable {a : Authority} (unfixed : a.offset = none) {sensor : UInt64}
    (unusable : usable sensor = false) (now : UInt64) : a.correctAt sensor now = (now, a) := by
  rw [correctAt, unfixed]
  simp only [unusable, Bool.false_eq_true, if_false]

theorem correctAt_usable {a : Authority} (unfixed : a.offset = none) {sensor : UInt64} (possible : usable sensor = true)
    (now : UInt64) : a.correctAt sensor now = a.apply sensor (offsetFrom sensor now) := by
  rw [correctAt, unfixed]
  simp only [possible, if_true]

/-- Whatever a correction does, the offset stays in its word. -/
theorem correctAt_offset_bounds {a : Authority} (sensor now : UInt64)
    (kept : ∀ offset, a.offset = some offset → lowestOffset ≤ offset ∧ offset ≤ highestOffset) :
    ∀ offset, (a.correctAt sensor now).2.offset = some offset → lowestOffset ≤ offset ∧ offset ≤ highestOffset := by
  intro offset now_fixed
  cases fixed : a.offset with
  | some before =>
    rw [correctAt_fixed fixed] at now_fixed
    exact kept offset now_fixed
  | none =>
    cases possible : usable sensor with
    | false =>
      rw [correctAt_unusable fixed possible] at now_fixed
      exact kept offset now_fixed
    | true =>
      rw [correctAt_usable fixed possible] at now_fixed
      cases now_fixed
      exact offsetFrom_bounds sensor now

theorem correctEach?_eq (samples : List (UInt64 × UInt64)) {a : Authority}
    (kept : ∀ offset, a.offset = some offset → lowestOffset ≤ offset ∧ offset ≤ highestOffset) :
    correctEach? samples a = some (correctEach samples a) := by
  induction samples generalizing a with
  | nil => rfl
  | cons sample rest ih =>
    obtain ⟨sensor, now⟩ := sample
    have next := ih (correctAt_offset_bounds sensor now kept)
    rw [correctEach?, correctAt?_eq a sensor now kept, Option.bind_eq_bind, Option.bind_some]
    simp only [next]
    rfl

theorem correctEach_append (before after : List (UInt64 × UInt64)) (a : Authority) :
    correctEach (before ++ after) a =
      ((correctEach before a).1 ++ (correctEach after (correctEach before a).2).1,
        (correctEach after (correctEach before a).2).2) := by
  induction before generalizing a with
  | nil => rfl
  | cons sample rest ih => simp only [List.cons_append, correctEach, ih]

/-- Samples that cannot fix the offset are given the system time and change nothing. -/
theorem correctEach_unusable {samples : List (UInt64 × UInt64)} {a : Authority} (unfixed : a.offset = none)
    (unusable : ∀ s ∈ samples, usable s.1 = false) : correctEach samples a = (samples.map (·.2), a) := by
  induction samples with
  | nil => rfl
  | cons sample rest ih =>
    obtain ⟨first, others⟩ := List.forall_mem_cons.mp unusable
    simp only [correctEach, correctAt_unusable unfixed first, ih others, List.map_cons]

/-- With a known offset every sample is moved by it, and the latest time is kept. -/
theorem correctEach_fixed (samples : List (UInt64 × UInt64)) {a : Authority} {offset : Int}
    (fixed : a.offset = some offset) :
    correctEach samples a =
      (samples.map fun s => shifted s.1 offset,
        { a with latest := (samples.map fun s => shifted s.1 offset).foldl max a.latest }) := by
  induction samples generalizing a with
  | nil => rfl
  | cons sample rest ih =>
    have next := ih (a := { a with latest := max a.latest (shifted sample.1 offset) }) fixed
    simp only [correctEach, correctAt_fixed fixed, next, List.map_cons, List.foldl_cons]

/-- The first usable sample fixes the offset for itself and all that follow. -/
theorem correctEach_usable {a : Authority} (unfixed : a.offset = none) {sensor : UInt64}
    (possible : usable sensor = true) (now : UInt64) (late : List (UInt64 × UInt64)) :
    correctEach ((sensor, now) :: late) a =
      (((sensor, now) :: late).map fun s => shifted s.1 (offsetFrom sensor now),
        { a with
          offset := some (offsetFrom sensor now)
          latest := (((sensor, now) :: late).map fun s => shifted s.1 (offsetFrom sensor now)).foldl max a.latest }) := by
  have rest := correctEach_fixed late (a := (a.apply sensor (offsetFrom sensor now)).2) rfl
  simp only [correctEach, correctAt_usable unfixed possible, rest]
  rfl

/-- The greater of two times, as the order of times has it. -/
instance : Std.LawfulOrderMax UInt64 where
  max_eq_or s t := by
    change (if s ≤ t then t else s) = s ∨ (if s ≤ t then t else s) = t
    split
    · exact Or.inr rfl
    · exact Or.inl rfl
  max_le_iff s t u := by
    change (if s ≤ t then t else s) ≤ u ↔ s ≤ u ∧ t ≤ u
    have total := UInt64.le_total s t
    simp only [UInt64.le_iff_toNat_le] at total ⊢
    split <;> omega

/-- What an authority makes of samples by one offset: they are moved by it as far as times reach, whatever the system
clock shows meanwhile, and the latest of their times is kept. So the order of the samples is kept, and where no end of
the range is met also the time between them. -/
structure Moved (offset : Int) (samples : List (UInt64 × UInt64)) (times : List UInt64) (a : Authority) : Prop where
  fixed : a.offset = some offset
  moved : times.map (fun t => (t.toNat : Int)) =
    samples.map fun s => max 0 (min ((UInt64.size : Int) - 1) (s.1.toNat + offset))
  greatest : a.latest ∈ times ∧ ∀ t ∈ times, t ≤ a.latest
  monotone : ∀ s t s' t', (s, t) ∈ samples.zip times → (s', t') ∈ samples.zip times → s.1 ≤ s'.1 → t ≤ t'
  spacing : ∀ s t s' t', (s, t) ∈ samples.zip times → (s', t') ∈ samples.zip times →
    0 ≤ s.1.toNat + offset → s.1.toNat + offset < UInt64.size →
    0 ≤ s'.1.toNat + offset → s'.1.toNat + offset < UInt64.size → (t.toNat : Int) - t'.toNat = s.1.toNat - s'.1.toNat

theorem moved_of_shifted {offset : Int} {samples : List (UInt64 × UInt64)} {a : Authority} (nonempty : samples ≠ [])
    (fixed : a.offset = some offset)
    (latest : a.latest = (samples.map fun s => shifted s.1 offset).foldl max 0) :
    Moved offset samples (samples.map fun s => shifted s.1 offset) a := by
  have zipped : samples.zip (samples.map fun s => shifted s.1 offset) = samples.map fun s => (s, shifted s.1 offset) := by
    have both := List.zip_map' (f := id) (g := fun s : UInt64 × UInt64 => shifted s.1 offset) (l := samples)
    rwa [List.map_id] at both
  have paired : ∀ s t, (s, t) ∈ samples.zip (samples.map fun s => shifted s.1 offset) → t = shifted s.1 offset := by
    intro s t member
    rw [zipped] at member
    obtain ⟨_, _, same⟩ := List.mem_map.mp member
    cases same
    rfl
  have range : highestTime = (UInt64.size : Int) - 1 := rfl
  refine ⟨fixed, ?_, ?_, ?_, ?_⟩
  · rw [List.map_map]
    refine List.map_congr_left fun s _ => ?_
    rw [Function.comp_apply, toNat_shifted, clamp, range]
  · obtain ⟨first, rest, rfl⟩ := List.exists_cons_of_ne_nil nonempty
    have start : max 0 (shifted first.1 offset) = shifted first.1 offset := if_pos (UInt64.zero_le ..)
    rw [List.map_cons, List.foldl_cons, start] at latest
    have greatest : (shifted first.1 offset :: rest.map fun s => shifted s.1 offset).max? = some a.latest := by
      rw [List.max?_cons', latest]
    exact List.max?_eq_some_iff.mp greatest
  · intro s t s' t' first second ordered
    rw [paired s t first, paired s' t' second]
    exact shifted_mono offset ordered
  · intro s t s' t' first second lower upper lower' upper'
    have time := toNat_shifted s.1 offset
    have time' := toNat_shifted s'.1 offset
    rw [clamp_of_within lower (by omega)] at time
    rw [clamp_of_within lower' (by omega)] at time'
    rw [paired s t first, paired s' t' second]
    omega

/-- A fresh authority gives samples the system time, with no offset and no latest time known, as long as none of them
lies within the range of offsets. The first that does fixes the offset to the difference of the two clocks, as far as
the range of offsets reaches, and it and all later samples are moved by that. Nothing overflows on the way. -/
theorem first_usable_moves_all (primary : Option String) (samples : List (UInt64 × UInt64)) :
    ∃ times a, correctEach samples { primary } = (times, a) ∧ correctEach? samples { primary } = some (times, a) ∧
      ((∀ s ∈ samples, Int64.maxValue.toInt < s.1.toNat) →
        times = samples.map (·.2) ∧ a.offset = none ∧ a.latest = 0) ∧
      ∀ early sensor now late, samples = early ++ (sensor, now) :: late →
        (∀ s ∈ early, Int64.maxValue.toInt < s.1.toNat) → sensor.toNat ≤ Int64.maxValue.toInt →
        ∃ corrected, times = early.map (·.2) ++ corrected ∧
          Moved (max Int64.minValue.toInt (min Int64.maxValue.toInt ((now.toNat : Int) - sensor.toNat)))
            ((sensor, now) :: late) corrected a := by
  have unusable {samples : List (UInt64 × UInt64)} (beyond : ∀ s ∈ samples, Int64.maxValue.toInt < s.1.toNat) :
      ∀ s ∈ samples, usable s.1 = false := by
    intro s member
    have outside := beyond s member
    rw [← Bool.not_eq_true, usable_iff]
    omega
  refine ⟨_, _, rfl, correctEach?_eq samples nofun, ?_, ?_⟩
  · intro beyond
    rw [correctEach_unusable rfl (unusable beyond)]
    exact ⟨rfl, rfl, rfl⟩
  · rintro early sensor now late rfl beyond within
    rw [correctEach_append, correctEach_unusable rfl (unusable beyond),
      correctEach_usable rfl ((usable_iff sensor).mpr within)]
    refine ⟨_, rfl, ?_⟩
    exact moved_of_shifted (List.cons_ne_nil _ _) rfl rfl

/-- Two samples out of range, the largest usable one, the smallest there is and the largest. -/
def roughStart : List (UInt64 × UInt64) :=
  [(9223372036854775808, 7), (18446744073709551615, 8), (9223372036854775807, 3), (0, 9), (18446744073709551615, 1)]

theorem first_usable_moves_all_rough :
    ∃ a, correctEach? roughStart { primary := "lidar" } = some ([7, 8, 3, 0, 9223372036854775811], a) ∧
      a.offset = some (-9223372036854775804) ∧
      Moved (-9223372036854775804) (roughStart.drop 2) [3, 0, 9223372036854775811] a := by
  obtain ⟨times, a, run, words, _, usable⟩ := first_usable_moves_all "lidar" roughStart
  have beyond : ∀ s ∈ roughStart.take 2, Int64.maxValue.toInt < s.1.toNat :=
    List.forall_mem_cons.mpr ⟨by decide, List.forall_mem_cons.mpr ⟨by decide, nofun⟩⟩
  obtain ⟨corrected, split, moved⟩ := usable _ 9223372036854775807 3 [(0, 9), (18446744073709551615, 1)] rfl beyond
    (by decide)
  have first : times = [7, 8, 3, 0, 9223372036854775811] := by
    have listed : (correctEach roughStart { primary := "lidar" }).1 = [7, 8, 3, 0, 9223372036854775811] := by decide
    rwa [run] at listed
  have parts : [7, 8] ++ [3, 0, 9223372036854775811] = [7, 8] ++ corrected := first.symm.trans split
  have rest : [3, 0, 9223372036854775811] = corrected := List.append_cancel_left parts
  subst first rest
  exact ⟨a, words, moved.fixed, moved⟩

end Authority

end CaptureRig.Clock
