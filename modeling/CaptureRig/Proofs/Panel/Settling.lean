import CaptureRig.Panel.Debouncer
import CaptureRig.Proofs.Clock.Stretch
import Mathlib.Data.List.Chain

namespace CaptureRig.Debouncer

/-- The debouncer when samples have been taken, each a level and the instant at which it was seen. -/
def after (d : Debouncer) (samples : List (Bool × Instant)) : Debouncer :=
  samples.foldl (fun d s => (d.update s.1 s.2).2) d

/-- The levels reported while samples are taken, in order. -/
def reports (d : Debouncer) : List (Bool × Instant) → List Bool
  | [] => []
  | s :: later => (d.update s.1 s.2).1.toList ++ reports (d.update s.1 s.2).2 later

/-- The debouncer with a level noticed, before it is asked whether the level counts. -/
def noticed (d : Debouncer) (level : Bool) (now : Instant) : Debouncer :=
  if level = d.candidate then d else { d with candidate := level, candidateSince := now }

@[simp] theorem noticed_stable (d : Debouncer) (level : Bool) (now : Instant) :
    (d.noticed level now).stable = d.stable := by
  unfold noticed
  split <;> rfl

@[simp] theorem noticed_candidate (d : Debouncer) (level : Bool) (now : Instant) :
    (d.noticed level now).candidate = level := by
  unfold noticed
  split
  · rename_i same
    exact same.symm
  · rfl

/-- A sample settles its level or not, and in either case the level is noticed. -/
theorem update_eq (d : Debouncer) (level : Bool) (now : Instant) :
    d.update level now =
      if level ≠ d.stable ∧ settleTime ≤ (d.noticed level now).candidateSince.elapsed now then
        (some level, { d.noticed level now with stable := level })
      else (none, d.noticed level now) := by
  have candidate := noticed_candidate d level now
  have stable := noticed_stable d level now
  unfold update
  rw [← noticed]
  dsimp only
  rw [candidate, stable]

theorem update_eq_some {d : Debouncer} {level x : Bool} {now : Instant} :
    (d.update level now).1 = some x ↔
      level = x ∧ x ≠ d.stable ∧ settleTime ≤ (d.noticed level now).candidateSince.elapsed now := by
  rw [update_eq]
  split
  · rename_i settled
    simp only [Option.some.injEq]
    constructor
    · rintro rfl
      exact ⟨rfl, settled⟩
    · exact fun same => same.1
  · rename_i unsettled
    simp only [reduceCtorEq, false_iff]
    rintro ⟨rfl, settled⟩
    exact unsettled settled

theorem update_candidate (d : Debouncer) (level : Bool) (now : Instant) :
    (d.update level now).2.candidate = level := by
  rw [update_eq]
  split <;> exact noticed_candidate d level now

theorem update_since (d : Debouncer) (level : Bool) (now : Instant) :
    (d.update level now).2.candidateSince = (d.noticed level now).candidateSince := by
  rw [update_eq]
  split <;> rfl

/-- The level that counts is the one reported last. -/
theorem update_stable (d : Debouncer) (level : Bool) (now : Instant) :
    (d.update level now).2.stable = (d.update level now).1.getD d.stable := by
  rw [update_eq]
  split
  · rfl
  · exact noticed_stable d level now

theorem after_concat (d : Debouncer) (samples : List (Bool × Instant)) (level : Bool) (now : Instant) :
    d.after (samples ++ [(level, now)]) = ((d.after samples).update level now).2 :=
  List.foldl_append

theorem reports_append (d : Debouncer) (earlier later : List (Bool × Instant)) :
    d.reports (earlier ++ later) = d.reports earlier ++ (d.after earlier).reports later := by
  induction earlier generalizing d with
  | nil => rfl
  | cons s rest ih =>
    rw [List.cons_append, reports, ih, reports, List.append_assoc]
    rfl

/-- The level that counts after some samples is the one reported last, and at first that of the beginning. -/
theorem after_stable (d : Debouncer) (samples : List (Bool × Instant)) :
    (d.after samples).stable = (d.reports samples).getLastD d.stable := by
  induction samples using List.reverseRecOn with
  | nil => rfl
  | append_singleton earlier s ih =>
    obtain ⟨level, now⟩ := s
    rw [after_concat, update_stable, ih, reports_append]
    cases answer : ((d.after earlier).update level now).1 with
    | none => simp [reports, answer]
    | some x => simp [reports, answer]

/-- Reports alternate, beginning with the opposite of the level that counts at first. -/
theorem reports_alternate (d : Debouncer) (samples : List (Bool × Instant)) :
    (d.stable :: d.reports samples).IsChain (· ≠ ·) := by
  induction samples generalizing d with
  | nil => exact .singleton _
  | cons s rest ih =>
    obtain ⟨level, now⟩ := s
    have later := ih (d.update level now).2
    rw [update_stable] at later
    cases answer : (d.update level now).1 with
    | none =>
      rw [answer] at later
      simpa [reports, answer] using later
    | some x =>
      have differs := (update_eq_some.mp answer).2.1
      rw [answer] at later
      simpa [reports, answer, differs.symm] using later

/-- What the samples so far tell of the candidate: it is the level seen last, and unless it counts already, it has been
seen since the first sample of its run. -/
structure Tracks (initial : Bool) (samples : List (Bool × Instant)) (d : Debouncer) : Prop where
  candidate : d.candidate = ((samples.getLast?).map (·.1)).getD initial
  since : d.candidate ≠ d.stable → runStart d.candidate samples = some d.candidateSince

namespace Tracks

variable {initial : Bool} {samples : List (Bool × Instant)} {d : Debouncer}

/-- A level that is noticed and does not count yet has been seen since the first sample of its run. -/
theorem noticed (tracks : Tracks initial samples d) {level : Bool} (unsettled : level ≠ d.stable) (now : Instant) :
    runStart level (samples ++ [(level, now)]) = some (d.noticed level now).candidateSince := by
  unfold Debouncer.noticed
  split
  · rename_i same
    subst same
    exact runStart_concat_of_some (tracks.since unsettled) now
  · rename_i other
    refine runStart_concat_of_ne (fun last => other ?_) now
    rw [tracks.candidate, last]
    rfl

theorem update (tracks : Tracks initial samples d) (level : Bool) (now : Instant) :
    Tracks initial (samples ++ [(level, now)]) (d.update level now).2 where
  candidate := by
    rw [update_candidate, List.getLast?_concat]
    rfl
  since unsettled := by
    rw [update_candidate, update_stable] at unsettled
    rw [update_candidate, update_since]
    cases answer : (d.update level now).1 with
    | none =>
      rw [answer] at unsettled
      exact tracks.noticed unsettled now
    | some x =>
      rw [answer] at unsettled
      exact absurd (update_eq_some.mp answer).1 unsettled

theorem after (initial : Bool) (start : Instant) (samples : List (Bool × Instant)) :
    Tracks initial samples ((new initial start).after samples) := by
  induction samples using List.reverseRecOn with
  | nil => exact ⟨rfl, fun unsettled => absurd rfl unsettled⟩
  | append_singleton earlier s ih =>
    rw [after_concat]
    exact ih.update s.1 s.2

end Tracks

/-- The level that counts already is not reported. -/
theorem reports_stable {d : Debouncer} {samples : List (Bool × Instant)} (same : ∀ s ∈ samples, s.1 = d.stable) :
    d.reports samples = [] := by
  induction samples generalizing d with
  | nil => rfl
  | cons s rest ih =>
    obtain ⟨here, later⟩ := List.forall_mem_cons.mp same
    have unanswered : (d.update s.1 s.2).1 = none :=
      Option.eq_none_iff_forall_ne_some.mpr fun x answer => by
        obtain ⟨rfl, differs, _⟩ := update_eq_some.mp answer
        exact differs here
    have stable : (d.update s.1 s.2).2.stable = d.stable := by
      rw [update_stable, unanswered]
      rfl
    rw [reports, unanswered, ih (stable ▸ later)]
    rfl

/-- A sample that settles its level is the only one of its run that reports it. -/
theorem reports_settled {d : Debouncer} {level : Bool} {now : Instant} {more : List (Bool × Instant)}
    (unsettled : level ≠ d.stable) (held : ∀ s ∈ more, s.1 = level)
    (settled : settleTime ≤ (d.noticed level now).candidateSince.elapsed now) :
    d.reports ((level, now) :: more) = [level] := by
  have answered : d.update level now = (some level, { d.noticed level now with stable := level }) := by
    rw [update_eq, if_pos ⟨unsettled, settled⟩]
  rw [reports, answered, reports_stable held]
  rfl

/-- A level that does not count yet is reported once while it is held, if it is held long enough. -/
theorem reports_held {d : Debouncer} {level : Bool} {now : Instant} {more : List (Bool × Instant)}
    (unsettled : level ≠ d.stable) (held : ∀ s ∈ more, s.1 = level)
    (ordered : (now :: more.map (·.2)).Pairwise (· ≤ ·)) :
    d.reports ((level, now) :: more) =
      if settleTime ≤ (d.noticed level now).candidateSince.elapsed ((more.map (·.2)).getLastD now) then [level]
      else [] := by
  induction more generalizing now d with
  | nil =>
    rw [reports, update_eq]
    by_cases settled : settleTime ≤ (d.noticed level now).candidateSince.elapsed now
    · rw [if_pos ⟨unsettled, settled⟩]
      exact (if_pos settled).symm
    · rw [if_neg fun both => settled both.2]
      exact (if_neg settled).symm
  | cons s rest ih =>
    obtain ⟨here, later⟩ := List.forall_mem_cons.mp held
    obtain ⟨same, next⟩ := s
    obtain rfl : same = level := here
    obtain ⟨first, others⟩ := List.pairwise_cons.mp ordered
    rw [List.map_cons, List.getLastD_cons]
    by_cases settled : settleTime ≤ (d.noticed same now).candidateSince.elapsed now
    · have longer : (d.noticed same now).candidateSince.elapsed now ≤
          (d.noticed same now).candidateSince.elapsed ((rest.map (·.2)).getLastD next) :=
        Nat.sub_le_sub_right (first _ List.getLastD_mem_cons) _
      rw [reports_settled unsettled held settled, if_pos (settled.trans longer)]
    · have unanswered : d.update same now = (none, d.noticed same now) := by
        rw [update_eq, if_neg fun both => settled both.2]
      have again : (d.noticed same now).noticed same next = d.noticed same now :=
        if_pos (noticed_candidate d same now).symm
      have goesOn := ih (d := d.noticed same now) (by rwa [noticed_stable]) later others
      rw [again] at goesOn
      rw [reports, unanswered]
      exact goesOn

/-- Of samples in order of time, each reports exactly the level that it shows, that differs from the one reported last
(or from that of the beginning), and that has been seen since the first sample of its unbroken run for the settle time.
So the levels reported alternate, beginning with the opposite of that of the beginning, and from the first sample of a
run on, a level is reported once if it has been held for the settle time and counted not before, and never otherwise. -/
theorem settled_levels_reported (initial : Bool) (start : Instant) {samples : List (Bool × Instant)}
    (ordered : (samples.map (·.2)).Pairwise (· ≤ ·)) :
    (∀ earlier level now later, samples = earlier ++ (level, now) :: later → ∀ x,
      ((((new initial start).after earlier).update level now).1 = some x ↔
        level = x ∧ x ≠ ((new initial start).reports earlier).getLastD initial ∧
          ∃ first, runStart x (earlier ++ [(level, now)]) = some first ∧ settleTime ≤ first.elapsed now)) ∧
    (initial :: (new initial start).reports samples).IsChain (· ≠ ·) ∧
    ∀ earlier level first more later, samples = earlier ++ (level, first) :: (more ++ later) →
      (earlier.getLast?).map (·.1) ≠ some level → (∀ s ∈ more, s.1 = level) →
      ((new initial start).after earlier).reports ((level, first) :: more) =
        if level ≠ ((new initial start).reports earlier).getLastD initial ∧
          settleTime ≤ first.elapsed ((more.map (·.2)).getLastD first) then [level] else [] := by
  have stable (earlier : List (Bool × Instant)) :
      ((new initial start).after earlier).stable = ((new initial start).reports earlier).getLastD initial :=
    after_stable (new initial start) earlier
  refine ⟨fun earlier level now later _ x => ?_, reports_alternate (new initial start) samples, ?_⟩
  · rw [update_eq_some, ← stable]
    refine and_congr_right ?_
    rintro rfl
    refine and_congr_right fun unsettled => ?_
    rw [(Tracks.after initial start earlier).noticed unsettled now]
    simp
  · intro earlier level first more later parts begins held
    rw [← stable]
    by_cases unsettled : level ≠ ((new initial start).after earlier).stable
    · have since : (((new initial start).after earlier).noticed level first).candidateSince = first := by
        have run := (Tracks.after initial start earlier).noticed unsettled first
        exact Option.some.inj (run.symm.trans (runStart_concat_of_ne begins first))
      have instants : (first :: more.map (·.2)).Sublist (samples.map (·.2)) := by
        rw [parts, List.map_append, List.map_cons, List.map_append, ← List.cons_append]
        exact (List.sublist_append_left ..).trans (List.sublist_append_right ..)
      rw [reports_held unsettled held (ordered.sublist instants), since]
      simp only [unsettled, ne_eq, not_false_eq_true, true_and]
    · rw [if_neg fun both => unsettled both.1]
      have same : level = ((new initial start).after earlier).stable := Decidable.not_not.mp unsettled
      exact reports_stable (List.forall_mem_cons.mpr ⟨same, fun s member => (held s member).trans same⟩)

/-- A bounce, and a press that bounces again just when it counts. -/
def bouncing : List (Bool × Instant) :=
  [(true, 0), (false, millis 3), (true, millis 30), (true, millis 35), (true, millis 40), (false, millis 40),
    (true, millis 45), (false, millis 90), (false, millis 100)]

theorem settled_levels_reported_bouncing :
    (bouncing.map (·.2)).Pairwise (· ≤ ·) ∧
    (((new false 0).after (bouncing.take 4)).update true (millis 40)).1 = some true ∧
    ((new false 0).after []).reports (bouncing.take 1) = [] ∧
    ((new false 0).after (bouncing.take 2)).reports ((bouncing.drop 2).take 3) = [true] ∧
    ((new false 0).after (bouncing.take 5)).reports ((bouncing.drop 5).take 1) = [] ∧
    (false :: (new false 0).reports bouncing).IsChain (· ≠ ·) := by
  have ordered : (bouncing.map (·.2)).Pairwise (· ≤ ·) := by decide
  obtain ⟨each, alternate, runs⟩ := settled_levels_reported false 0 ordered
  refine ⟨ordered, ?_, ?_, ?_, ?_, alternate⟩
  · exact (each (bouncing.take 4) true (millis 40) (bouncing.drop 5) rfl true).mpr ⟨rfl, by decide, millis 30, rfl, by decide⟩
  · exact runs [] true 0 [] (bouncing.drop 1) rfl (by decide) (by decide)
  · exact runs (bouncing.take 2) true (millis 30) [(true, millis 35), (true, millis 40)] (bouncing.drop 5) rfl (by decide)
      (by decide)
  · exact runs (bouncing.take 5) false (millis 40) [] (bouncing.drop 6) rfl (by decide) (by decide)

end CaptureRig.Debouncer
