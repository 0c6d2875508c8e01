import CaptureRig.Clock.Instant
import Mathlib.Data.List.DropRight

namespace CaptureRig

variable {κ : Type} [DecidableEq κ]

/-- The first instant of the unbroken run of one thing that what has been seen ends with. -/
def runStart (key : κ) (seen : List (κ × Instant)) : Option Instant :=
  ((seen.rtakeWhile fun s => s.1 = key).head?).map (·.2)

/-- What is seen once more goes on with its run. -/
theorem runStart_concat_of_some {key : κ} {seen : List (κ × Instant)} {first : Instant}
    (run : runStart key seen = some first) (now : Instant) : runStart key (seen ++ [(key, now)]) = some first := by
  obtain ⟨s, head, rfl⟩ := Option.map_eq_some_iff.mp run
  have goesOn := List.rtakeWhile_concat_pos (fun s : κ × Instant => s.1 = key) seen (key, now) (decide_eq_true rfl)
  rw [runStart, goesOn, List.head?_append, head]
  rfl

/-- What was not the last to be seen begins a run. -/
theorem runStart_concat_of_ne {key : κ} {seen : List (κ × Instant)} (other : (seen.getLast?).map (·.1) ≠ some key)
    (now : Instant) : runStart key (seen ++ [(key, now)]) = some now := by
  have none : seen.rtakeWhile (fun s => s.1 = key) = [] := by
    refine List.rtakeWhile_eq_nil_iff.mpr fun some last => other ?_
    rw [List.getLast?_eq_some_getLast some, Option.map_some, of_decide_eq_true last]
  have begins := List.rtakeWhile_concat_pos (fun s : κ × Instant => s.1 = key) seen (key, now) (decide_eq_true rfl)
  rw [runStart, begins, none]
  rfl

end CaptureRig
