import CaptureRig.Camera.TestPattern
import CaptureRig.Proofs.Record.Intake

namespace CaptureRig.Camera

namespace TestPattern

/-- The number of frames after which the shift of the bars is what it was. -/
def cycle : Nat := 1073741824

/-- The number of frames of a cycle that can be made: all but the last 79. -/
def reach : Nat := 1073741745

theorem toNat_shift (step : UInt32) : (shift step).toNat = step.toNat % cycle * 4 := by
  have four : (4 : UInt32).toNat = 4 := rfl
  rw [shift, UInt32.toNat_mul, cycle, four]
  omega

/-- The last column is the first whose place leaves 32 bits. -/
theorem last_placed_iff (step : UInt32) :
    width - 1 + (shift step).toNat < UInt32.size ↔ step.toNat % cycle < reach := by
  simp only [toNat_shift, width, UInt32.size, reach]
  omega

theorem placed_iff (step : UInt32) :
    (∀ x < width, x + (shift step).toNat < UInt32.size) ↔ step.toNat % cycle < reach := by
  rw [← last_placed_iff]
  constructor
  · intro placed
    exact placed (width - 1) (by decide)
  · intro last x inRow
    omega

section Rows

variable {s : Source}

/-- The red, green and blue of a pixel whose place is within 32 bits. -/
def colour (s : Source) (x y : Nat) : Nat × Nat × Nat :=
  ((x + (shift s.step).toNat) / 40 % 8 * 32, y % 256, (s.camera * 60).toNat % 256)

/-- The pixels of a row in these columns, before the rows below it. -/
def row? (s : Source) (y : Nat) (xs : List Nat) (below : Option (List (Nat × Nat × Nat))) :
    Option (List (Nat × Nat × Nat)) :=
  xs.foldr (fun x later =>
    match pixel? s.camera s.step x y, later with
    | some p, some ps => some (p :: ps)
    | _, _ => none) below

theorem grab?_eq_rows (s : Source) :
    grab? s = (List.range height).foldr (fun y later => row? s y (List.range width) later) (some []) := rfl

theorem row?_cons (y x : Nat) (xs : List Nat) (below : Option (List (Nat × Nat × Nat))) :
    row? s y (x :: xs) below =
      if x + (shift s.step).toNat < UInt32.size then (row? s y xs below).map (colour s x y :: ·) else none := by
  have here : pixel? s.camera s.step x y =
      if x + (shift s.step).toNat < UInt32.size then some (colour s x y) else none := rfl
  rw [row?, List.foldr_cons, here, ← row?]
  by_cases placed : x + (shift s.step).toNat < UInt32.size
  · rw [if_pos placed, if_pos placed]
    cases row? s y xs below <;> rfl
  · rw [if_neg placed, if_neg placed]

theorem row?_of_placed {y : Nat} {xs : List Nat} (placed : ∀ x ∈ xs, x + (shift s.step).toNat < UInt32.size)
    (below : List (Nat × Nat × Nat)) : row? s y xs (some below) = some (xs.map (colour s · y) ++ below) := by
  induction xs with
  | nil => rfl
  | cons x xs ih =>
    obtain ⟨here, rest⟩ := List.forall_mem_cons.mp placed
    rw [row?_cons, if_pos here, ih rest]
    rfl

/-- A row is lost with any of its pixels. -/
theorem row?_of_unplaced {x y : Nat} {xs : List Nat} (member : x ∈ xs)
    (beyond : UInt32.size ≤ x + (shift s.step).toNat) (below : Option (List (Nat × Nat × Nat))) :
    row? s y xs below = none := by
  induction xs with
  | nil => cases member
  | cons x' xs ih =>
    rw [row?_cons]
    rcases List.mem_cons.mp member with rfl | later
    · exact if_neg (Nat.not_lt.mpr beyond)
    · rw [ih later, Option.map_none, ite_self]

/-- The pixels of these rows. -/
def rows (s : Source) (ys : List Nat) : List (Nat × Nat × Nat) :=
  ys.flatMap fun y => (List.range width).map (colour s · y)

theorem grab?_of_placed (placed : ∀ x < width, x + (shift s.step).toNat < UInt32.size) :
    grab? s = some (rows s (List.range height)) := by
  rw [grab?_eq_rows]
  generalize List.range height = ys
  induction ys with
  | nil => rfl
  | cons y ys ih =>
    rw [List.foldr_cons, ih, row?_of_placed fun x member => placed x (List.mem_range.mp member)]
    rfl

theorem grab?_of_unplaced {x : Nat} (inRow : x < width) (beyond : UInt32.size ≤ x + (shift s.step).toNat) :
    grab? s = none := by
  have top : List.range height = 0 :: (List.range (height - 1)).map Nat.succ := List.range_succ_eq_map
  rw [grab?_eq_rows, top, List.foldr_cons]
  exact row?_of_unplaced (List.mem_range.mpr inRow) beyond _

theorem grab?_eq (s : Source) :
    grab? s = if s.step.toNat % cycle < reach then some (rows s (List.range height)) else none := by
  split
  · rename_i early
    exact grab?_of_placed ((placed_iff s.step).mpr early)
  · rename_i late
    exact grab?_of_unplaced (x := width - 1) (by decide) (Nat.not_lt.mp (mt (last_placed_iff s.step).mp late))

theorem length_rows (s : Source) (ys : List Nat) : (rows s ys).length = ys.length * width := by
  induction ys with
  | nil => exact (Nat.zero_mul width).symm
  | cons y ys ih =>
    rw [rows, List.flatMap_cons, ← rows, List.length_append, ih, List.length_map, List.length_range, List.length_cons,
      Nat.succ_mul, Nat.add_comm]

theorem getElem?_rows {n x y : Nat} (inColumn : y < n) (inRow : x < width) :
    (rows s (List.range n))[y * width + x]? = some (colour s x y) := by
  induction n with
  | zero => exact absurd inColumn (Nat.not_lt_zero y)
  | succ n ih =>
    have above : (rows s (List.range n)).length = n * width := by rw [length_rows, List.length_range]
    have last : rows s (List.range (n + 1)) = rows s (List.range n) ++ (List.range width).map (colour s · n) := by
      rw [List.range_succ, rows, List.flatMap_append, List.flatMap_singleton, ← rows]
    rw [last]
    rcases Nat.lt_succ_iff_lt_or_eq.mp inColumn with earlier | rfl
    · have within : y * width + x < n * width := by
        have rowsAbove : (y + 1) * width ≤ n * width := Nat.mul_le_mul_right width earlier
        rw [Nat.succ_mul] at rowsAbove
        omega
      rw [List.getElem?_append_left (by rw [above]; exact within), ih earlier]
    · rw [List.getElem?_append_right (by omega), above, Nat.add_sub_cancel_left, List.getElem?_map,
        List.getElem?_range inRow]
      rfl

end Rows

/-- The source of a camera after a number of grabs. -/
def Source.after (camera : UInt32) : Nat → Source
  | 0 => ⟨camera, 0⟩
  | n + 1 => (after camera n).next

theorem Source.after_eq (camera : UInt32) (n : Nat) : after camera n = ⟨camera, UInt32.ofNat n⟩ := by
  induction n with
  | zero => rfl
  | succ n ih =>
    rw [after, ih, next, UInt32.ofNat_add]
    rfl

theorem Source.step_after (camera : UInt32) (n : Nat) : (after camera n).step.toNat % cycle = n % cycle := by
  have step : (after camera n).step.toNat = n % UInt32.size := by
    rw [after_eq]
    exact UInt32.toNat_ofNat
  rw [step, UInt32.size, cycle]
  omega

theorem grab?_after (camera : UInt32) (n : Nat) :
    grab? (Source.after camera n) =
      if n % cycle < reach then some (rows (Source.after camera n) (List.range height)) else none := by
  rw [grab?_eq, Source.step_after]

/-- A thread that captures the pattern for a client. -/
structure Thread where
  client : Client
  /-- What it grabs from; nothing once it has died. -/
  source : Option Source
  /-- The number of grabs that it has begun. -/
  grabs : Nat

/-- What happens while a thread captures. -/
inductive Turn where
  /-- The thread goes round, where the clock shows this time if it takes a frame. -/
  | round (stamp : UInt64)
  /-- Others do something with the client. -/
  | others (change : Client → Client)

namespace Thread

variable (encode : Encoder)

def begin (camera : UInt32) (c : Client) : Thread := ⟨c, some ⟨camera, 0⟩, 0⟩

/-- A thread grabs only while its client logs, and dies of a grab that cannot place its bars. -/
def turn (t : Thread) : Turn → Thread
  | .others change => { t with client := change t.client }
  | .round stamp =>
    match t.source with
    | none => t
    | some s =>
      if !t.client.logging then t
      else match grab? s with
        | none => { t with source := none, grabs := t.grabs + 1 }
        | some _ => ⟨t.client.capture encode stamp s.camera (some (image s)), some s.next, t.grabs + 1⟩

section Round

variable {t : Thread} {s : Source} (source : t.source = some s) (logging : t.client.logging = true) (stamp : UInt64)

include source logging

theorem turn_grabbed {pixels : List (Nat × Nat × Nat)} (grabbed : grab? s = some pixels) :
    t.turn encode (.round stamp) = ⟨t.client.capture encode stamp s.camera (some (image s)), some s.next, t.grabs + 1⟩ := by
  simp only [turn, source, logging, grabbed]
  rfl

theorem turn_lost (lost : grab? s = none) : t.turn encode (.round stamp) = ⟨t.client, none, t.grabs + 1⟩ := by
  simp only [turn, source, logging, lost]
  rfl

end Round

theorem turn_idle {t : Thread} (idle : t.client.logging = false) (stamp : UInt64) : t.turn encode (.round stamp) = t := by
  rw [turn]
  split
  · rfl
  · rw [idle]
    rfl

theorem turn_dead {t : Thread} (dead : t.source = none) (stamp : UInt64) : t.turn encode (.round stamp) = t := by
  rw [turn, dead]

def run (t : Thread) (turns : List Turn) : Thread := turns.foldl (turn encode) t

/-- How the grabs of a thread tell whether it is alive. -/
inductive Told (camera : UInt32) (t : Thread) : Prop
  | alive (within : t.grabs ≤ reach) (source : t.source = some (.after camera t.grabs))
  | dead (beyond : t.grabs = reach + 1) (source : t.source = none)

namespace Told

variable {camera : UInt32} {t : Thread}

theorem isSome_iff (told : t.Told camera) : t.source.isSome ↔ t.grabs ≤ reach := by
  cases told with
  | alive within source => simp [within, source]
  | dead beyond source => simp [beyond, source]

/-- A round in which the client logs is a grab, as long as the thread is alive. -/
theorem round (told : t.Told camera) (logging : t.client.logging = true) (stamp : UInt64) :
    (t.turn encode (.round stamp)).Told camera ∧ (t.turn encode (.round stamp)).client.logging = true ∧
      (t.turn encode (.round stamp)).grabs = min (t.grabs + 1) (reach + 1) := by
  cases told with
  | dead beyond source =>
    rw [turn_dead encode source]
    exact ⟨.dead beyond source, logging, by omega⟩
  | alive within source =>
    -- A thread that is alive is in its first cycle, where the number of a grab is its own remainder.
    have early : t.grabs % cycle = t.grabs := Nat.mod_eq_of_lt (Nat.lt_of_le_of_lt within (by decide))
    have grabbed := grab?_after camera t.grabs
    rw [early] at grabbed
    by_cases more : t.grabs < reach
    · rw [if_pos more] at grabbed
      rw [turn_grabbed encode source logging stamp grabbed]
      exact ⟨.alive more rfl, (t.client.capture_logging ..).trans logging, by dsimp only; omega⟩
    · rw [if_neg more] at grabbed
      rw [turn_lost encode source logging stamp grabbed]
      have last : t.grabs = reach := Nat.le_antisymm within (Nat.not_lt.mp more)
      exact ⟨.dead (congrArg (· + 1) last) rfl, logging, by dsimp only; omega⟩

theorem turn (told : t.Told camera) (turn : Turn) : (t.turn encode turn).Told camera := by
  cases turn with
  | others change =>
    cases told with
    | alive within source => exact .alive within source
    | dead beyond source => exact .dead beyond source
  | round stamp =>
    by_cases logging : t.client.logging = true
    · exact (told.round encode logging stamp).1
    · rw [turn_idle encode (Bool.eq_false_iff.mpr logging)]
      exact told

theorem run (told : t.Told camera) (turns : List Turn) : (t.run encode turns).Told camera := by
  induction turns generalizing t with
  | nil => exact told
  | cons first rest ih => exact ih (told.turn encode first)

/-- If its client logs all the time, a thread grabs in every round until it dies. -/
theorem grabs_rounds (told : t.Told camera) (logging : t.client.logging = true) (stamps : List UInt64) :
    (t.run encode (stamps.map .round)).grabs = min (t.grabs + stamps.length) (reach + 1) := by
  induction stamps generalizing t with
  | nil =>
    cases told with
    | alive within => exact (Nat.min_eq_left (Nat.le_succ_of_le within)).symm
    | dead beyond => exact (Nat.min_eq_left (Nat.le_of_eq beyond)).symm
  | cons stamp stamps ih =>
    obtain ⟨told, logging, grabs⟩ := told.round encode logging stamp
    have later := ih told logging
    rw [List.map_cons, Thread.run, List.foldl_cons, ← Thread.run, later, grabs, List.length_cons]
    omega

end Told

theorem told_begin (camera : UInt32) (c : Client) : (begin camera c).Told camera := .alive (Nat.zero_le reach) rfl

theorem logging_start (c : Client) : c.start.logging = true := by
  rcases c.start_cases with ⟨same, on⟩ | begun
  · rw [same, on]
  · rw [begun]

theorem alive_rounds_iff (camera : UInt32) (c : Client) (stamps : List UInt64) :
    ((begin camera c.start).run encode (stamps.map .round)).source.isSome ↔ stamps.length ≤ reach := by
  have told := told_begin camera c.start
  have grabs := told.grabs_rounds encode (logging_start c) stamps
  have none : (begin camera c.start).grabs = 0 := rfl
  rw [(told.run encode _).isSome_iff, grabs, none]
  omega

end Thread

/-- After any number of grabs, which may be more than 32 bits can count, there is a next frame exactly if all places of a row
are within 32 bits, and that is so but for the last 79 frames in each 2³⁰. A frame has a pixel for each of its places, in
the colour of its bar. Whatever else is done with its client, a thread that captures the pattern is alive exactly as long
as it has begun no more than 2³⁰ - 79 grabs. That is a bound on its rounds if the client logs in all of them. -/
theorem pattern_lasts (encode : Encoder) (camera : UInt32) :
    (∀ n, let s := Source.after camera n
      ((∀ x < width, x + (shift s.step).toNat < UInt32.size) ↔ n % cycle < reach) ∧
      ((grab? s).isSome ↔ n % cycle < reach) ∧
      ∀ pixels, grab? s = some pixels → pixels.length = height * width ∧
        ∀ x < width, ∀ y < height, pixels[y * width + x]? = some (colour s x y)) ∧
    (∀ c turns, let t := (Thread.begin camera c).run encode turns
      t.source.isSome ↔ t.grabs ≤ reach) ∧
    ∀ (c : Client) (stamps : List UInt64),
      ((Thread.begin camera c.start).run encode (stamps.map .round)).source.isSome ↔ stamps.length ≤ reach := by
  refine ⟨fun n => ⟨?_, ?_, ?_⟩, ?_, Thread.alive_rounds_iff encode camera⟩
  · rw [placed_iff, Source.step_after]
  · rw [grab?_after]
    split <;> simp_all
  · intro pixels grabbed
    rw [grab?_after] at grabbed
    split at grabbed
    · cases grabbed
      refine ⟨by rw [length_rows, List.length_range], fun x inRow y inColumn => getElem?_rows inColumn inRow⟩
    · cases grabbed
  · intro c turns
    exact ((Thread.told_begin camera c).run encode turns).isSome_iff

/-- The last frame before the bars overrun for the fifth time, and the first one after it. -/
theorem pattern_lasts_fifth :
    (grab? (Source.after 7 5368709040)).isSome ∧ grab? (Source.after 7 5368709041) = none ∧
    ((Thread.begin 7 (Client.start {})).run .marks ((List.replicate reach 0).map .round)).source.isSome ∧
    ((Thread.begin 7 (Client.start {})).run .marks ((List.replicate (reach + 1) 0).map .round)).source = none := by
  obtain ⟨frames, _, rounds⟩ := pattern_lasts .marks 7
  refine ⟨(frames 5368709040).2.1.mpr (by decide), ?_, (rounds {} _).mpr (Nat.le_of_eq List.length_replicate), ?_⟩
  · exact Option.not_isSome_iff_eq_none.mp (mt (frames 5368709041).2.1.mp (by decide))
  · refine Option.not_isSome_iff_eq_none.mp (mt (rounds {} _).mp ?_)
    rw [List.length_replicate]
    exact Nat.not_succ_le_self reach

/-- The first frame that cannot be made: its bars leave 32 bits four pixels before the end of a row. A thread that goes on
for long enough comes to it. -/
theorem bars_overrun :
    Source.after 0 1073741745 = ⟨0, 1073741745⟩ ∧ 316 < width ∧ 316 + (shift 1073741745).toNat = UInt32.size ∧
    grab? ⟨0, 1073741745⟩ = none ∧ ∃ turns, ((Thread.begin 0 {}).run .marks turns).source = none := by
  have inRow : 316 < width := by decide
  have place : 316 + (shift 1073741745).toNat = UInt32.size := by decide
  have started (turns : List Turn) :
      (Thread.begin 0 {}).run .marks (.others Client.start :: turns) =
        (Thread.begin 0 (Client.start {})).run .marks turns := rfl
  refine ⟨Source.after_eq 0 1073741745, inRow, place, grab?_of_unplaced inRow (Nat.le_of_eq place.symm),
    .others Client.start :: (List.replicate (reach + 1) 0).map .round, ?_⟩
  rw [started]
  refine Option.not_isSome_iff_eq_none.mp (mt (Thread.alive_rounds_iff .marks 0 {} (List.replicate (reach + 1) 0)).mp ?_)
  rw [List.length_replicate]
  exact Nat.not_succ_le_self reach

end TestPattern

end CaptureRig.Camera
