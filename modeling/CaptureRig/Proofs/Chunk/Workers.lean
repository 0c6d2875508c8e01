import CaptureRig.Proofs.Chunk.Phases
import CaptureRig.Proofs.Storage.Estate
import CaptureRig.Proofs.Storage.Locality

namespace CaptureRig

namespace Chunk

open Storage

/-- One who writes the dump of a client: the steps that are left of its plan, and why it was given up, if it was. -/
structure Worker where
  name : String
  /-- The files that are named if all goes well. -/
  files : List String
  left : List WriteStep
  failure : Option PersistError := none
  deriving Repr, DecidableEq

namespace Worker

/-- Carry out the next step. A plan is given up at the first step that fails. -/
def work (w : Worker) (t : Tree) : Worker × Tree :=
  match w.left with
  | [] => (w, t)
  | step :: rest =>
    match step.run t with
    | (none, t) => ({ w with left := rest }, t)
    | (some e, t) => ({ w with left := [], failure := some e }, t)

/-- What has come of the work. -/
def outcome (w : Worker) : Outcome :=
  (w.name, match w.failure with | none => .wrote w.files | some e => .failed e)

/-- Work to the end, alone. -/
def finish (w : Worker) (t : Tree) : Worker × Tree :=
  ({ w with left := [], failure := (WriteStep.runAll w.left t).1.or w.failure }, (WriteStep.runAll w.left t).2)

end Worker

/-- The worker at a position takes a turn. -/
def turn (s : List Worker × Tree) (n : Nat) : List Worker × Tree :=
  match s.1[n]? with
  | none => s
  | some w => (s.1.set n (w.work s.2).1, (w.work s.2).2)

/-- The workers take turns in some order. -/
def takeTurns (order : List Nat) (s : List Worker × Tree) : List Worker × Tree := order.foldl turn s

namespace Worker

variable {w : Worker} {t v : Tree}

theorem finish_of_done (done : w.left = []) (t : Tree) : w.finish t = (w, t) := by
  obtain ⟨name, files, left, failure⟩ := w
  obtain rfl : left = [] := done
  rfl

/-- A step forward does not change what the work comes to. -/
theorem finish_work (w : Worker) (t : Tree) : (w.work t).1.finish (w.work t).2 = w.finish t := by
  obtain ⟨name, files, left, failure⟩ := w
  cases left with
  | nil => rfl
  | cons step rest =>
    simp only [work, finish, WriteStep.runAll]
    rcases step.run t with ⟨e | _, u⟩ <;> rfl

/-- A worker does nothing, or the first step that is left. -/
theorem work_cases (w : Worker) (t : Tree) :
    w.left = [] ∧ w.work t = (w, t) ∨
      ∃ step rest, w.left = step :: rest ∧ (w.work t).2 = (step.run t).2 ∧
        (w.work t).1 = match (step.run t).1 with
          | none => { w with left := rest }
          | some e => { w with left := [], failure := some e } := by
  unfold work
  split
  · rename_i done
    exact Or.inl ⟨done, rfl⟩
  · rename_i step rest left
    refine Or.inr ⟨step, rest, left, ?_⟩
    rcases step.run t with ⟨e | _, u⟩ <;> exact ⟨rfl, rfl⟩

theorem work_left (w : Worker) (t : Tree) : (w.work t).1.left <:+ w.left := by
  rcases w.work_cases t with ⟨_, idle⟩ | ⟨step, rest, left, _, worked⟩
  · exact idle.symm ▸ List.suffix_rfl
  · rw [worked, left]
    split
    · exact List.suffix_cons step rest
    · exact List.nil_suffix

/-- A worker changes nothing but the files in its plan. -/
theorem work_frame {q : Place} (away : ∀ step ∈ w.left, q ≠ placeOf step.path) :
    (w.work t).2.node? q = t.node? q := by
  rcases w.work_cases t with ⟨_, idle⟩ | ⟨step, rest, left, tree, _⟩
  · rw [idle]
  · rw [tree, WriteStep.run_frame step t (away step (left ▸ List.mem_cons_self))]

theorem work_keeps (w : Worker) (t : Tree) : t.KeepsDirectories (w.work t).2 := by
  rcases w.work_cases t with ⟨_, idle⟩ | ⟨step, _, _, tree, _⟩
  · rw [idle]
    exact .refl t
  · rw [tree]
    exact WriteStep.run_keeps step t

theorem work_flaws (w : Worker) (t : Tree) : (w.work t).2.flaws = t.flaws := by
  rcases w.work_cases t with ⟨_, idle⟩ | ⟨step, _, _, tree, _⟩
  · rw [idle]
  · rw [tree, WriteStep.run_flaws]

end Worker

/-- Two trees in which the same is written by some steps: in both the directory is open, and what is there under the
names of the files is the same, as is what is wrong there. -/
structure Matching (dir : String) (steps : List WriteStep) (t v : Tree) : Prop where
  opened : Open t dir
  opened' : Open v dir
  flaws : t.flaws = v.flaws
  same : ∀ step ∈ steps, t.node? (placeOf step.path) = v.node? (placeOf step.path)

/-- In matching trees a worker does the same. -/
theorem Matching.work {dir : String} {steps : List WriteStep} {t v : Tree} {w : Worker}
    (matching : Matching dir steps t v) (named : dir ≠ "") (lies : ∀ step ∈ steps, step.LiesIn dir)
    (among : w.left ⊆ steps) :
    (w.work t).1 = (w.work v).1 ∧ Matching dir steps (w.work t).2 (w.work v).2 := by
  have opened := (w.work_keeps t).opened matching.opened
  have opened' := (w.work_keeps v).opened matching.opened'
  have flaws : (w.work t).2.flaws = (w.work v).2.flaws := by rw [w.work_flaws, w.work_flaws, matching.flaws]
  rcases w.work_cases t with ⟨done, idle⟩ | ⟨step, rest, left, tree, worked⟩
  · have idle' : w.work v = (w, v) := by
      unfold Worker.work
      rw [done]
    rw [idle, idle']
    exact ⟨rfl, matching⟩
  · rcases w.work_cases v with ⟨done, _⟩ | ⟨step', rest', left', tree', worked'⟩
    · cases left.symm.trans done
    cases left.symm.trans left'
    have member : step ∈ steps := among (left ▸ List.mem_cons_self)
    obtain ⟨outcome, written⟩ := WriteStep.run_alike named (lies step member) matching.opened matching.opened'
      (matching.same step member) (Tree.flaw?_eq_of_flaws matching.flaws _)
    refine ⟨by rw [worked, worked', outcome], opened, opened', flaws, fun other member' => ?_⟩
    rw [tree, tree']
    by_cases place : placeOf other.path = placeOf step.path
    · rw [place, written]
    · rw [WriteStep.run_frame step t place, WriteStep.run_frame step v place, matching.same other member']

/-- Two workers have no file in common. -/
def Worker.Apart (w w' : Worker) : Prop :=
  ∀ step ∈ w.left, ∀ step' ∈ w'.left, placeOf step.path ≠ placeOf step'.path

theorem apart_of_ne {plans : List Worker} (apart : plans.Pairwise Worker.Apart) {m n : Nat} {w w' : Worker}
    (other : m ≠ n) (first : plans[m]? = some w) (second : plans[n]? = some w') : w.Apart w' := by
  obtain ⟨within, rfl⟩ := List.getElem?_eq_some_iff.mp first
  obtain ⟨within', rfl⟩ := List.getElem?_eq_some_iff.mp second
  rcases Nat.lt_or_gt_of_ne other with before | after
  · exact List.pairwise_iff_getElem.mp apart m n within within' before
  · exact fun step member step' member' same =>
      List.pairwise_iff_getElem.mp apart n m within' within after step' member' step member same.symm

/-- A worker among others comes to the same as it would alone, with the files of its plan as they would then be. -/
structure Underway (dir : String) (w₀ : Worker) (t₀ : Tree) (w : Worker) (t : Tree) : Prop where
  left : w.left ⊆ w₀.left
  alone : ∃ v, w.finish v = w₀.finish t₀ ∧ Matching dir w₀.left t v

namespace Underway

variable {dir : String} {w₀ w : Worker} {t₀ t : Tree} (underway : Underway dir w₀ t₀ w t)

include underway

theorem work (named : dir ≠ "") (lies : ∀ step ∈ w₀.left, step.LiesIn dir) :
    Underway dir w₀ t₀ (w.work t).1 (w.work t).2 := by
  obtain ⟨left, v, comes, matching⟩ := underway
  obtain ⟨same, matching⟩ := matching.work named lies left
  refine ⟨fun _ member => left ((w.work_left t).subset member), (w.work v).2, ?_, matching⟩
  rw [same, Worker.finish_work, comes]

/-- The work of another does not matter. -/
theorem wait {w' : Worker}
    (away : ∀ step ∈ w₀.left, ∀ step' ∈ w'.left, placeOf step.path ≠ placeOf step'.path) :
    Underway dir w₀ t₀ w (w'.work t).2 := by
  obtain ⟨left, v, comes, matching⟩ := underway
  have opened := (w'.work_keeps t).opened matching.opened
  refine ⟨left, v, comes, opened, matching.opened', (w'.work_flaws t).trans matching.flaws, fun step member => ?_⟩
  rw [Worker.work_frame (away step member), matching.same step member]

theorem done (finished : w.left = []) :
    w = (w₀.finish t₀).1 ∧
      ∀ step ∈ w₀.left, t.node? (placeOf step.path) = (w₀.finish t₀).2.node? (placeOf step.path) := by
  obtain ⟨_, v, comes, matching⟩ := underway
  rw [Worker.finish_of_done finished] at comes
  rw [← comes]
  exact ⟨rfl, matching.same⟩

end Underway

/-- Some turns have been taken: each worker is under way, and nothing but the files of their plans has changed. -/
structure Amidst (dir : String) (plans : List Worker) (t₀ : Tree) (s : List Worker × Tree) : Prop where
  length : s.1.length = plans.length
  each : ∀ {n : Nat} {w₀ w : Worker}, plans[n]? = some w₀ → s.1[n]? = some w → Underway dir w₀ t₀ w s.2
  others : ∀ q, (∀ w₀ ∈ plans, ∀ step ∈ w₀.left, q ≠ placeOf step.path) → s.2.node? q = t₀.node? q
  kept : t₀.KeepsDirectories s.2
  flaws : s.2.flaws = t₀.flaws

section Turns

variable {dir : String} {plans : List Worker} {t₀ : Tree} (named : dir ≠ "")
  (lies : ∀ w ∈ plans, ∀ step ∈ w.left, step.LiesIn dir) (apart : plans.Pairwise Worker.Apart)

theorem Amidst.start (opened : Open t₀ dir) : Amidst dir plans t₀ (plans, t₀) where
  length := rfl
  each planned present := by
    cases planned.symm.trans present
    exact ⟨List.Subset.refl _, t₀, rfl, opened, opened, rfl, fun _ _ => rfl⟩
  others _ _ := rfl
  kept := .refl t₀
  flaws := rfl

include named lies apart

theorem Amidst.turn {s : List Worker × Tree} (amidst : Amidst dir plans t₀ s) (n : Nat) :
    Amidst dir plans t₀ (turn s n) := by
  unfold Chunk.turn
  split
  · exact amidst
  rename_i w present
  obtain ⟨w₀, planned⟩ : ∃ w₀, plans[n]? = some w₀ := by
    have within := (List.getElem?_eq_some_iff.mp present).1
    rw [amidst.length] at within
    exact ⟨_, List.getElem?_eq_getElem within⟩
  have underway := amidst.each planned present
  have planIn := lies w₀ (List.mem_of_getElem? planned)
  refine ⟨by rw [List.length_set, amidst.length], fun {m u₀ u} planned' present' => ?_, fun q away => ?_,
    amidst.kept.trans (w.work_keeps s.2), (w.work_flaws s.2).trans amidst.flaws⟩
  · rw [List.getElem?_set] at present'
    split at present'
    · rename_i same
      subst same
      split at present'
      · cases present'
        cases planned.symm.trans planned'
        exact underway.work named planIn
      · cases present'
    · rename_i other
      refine (amidst.each planned' present').wait ?_
      intro step member step' member'
      exact apart_of_ne apart (Ne.symm other) planned' planned step member step' (underway.left member')
  · rw [Worker.work_frame, amidst.others q away]
    exact fun step member => away w₀ (List.mem_of_getElem? planned) step (underway.left member)

theorem Amidst.takeTurns {s : List Worker × Tree} (amidst : Amidst dir plans t₀ s) (order : List Nat) :
    Amidst dir plans t₀ (takeTurns order s) := by
  induction order generalizing s with
  | nil => exact amidst
  | cons n order ih => exact ih (amidst.turn named lies apart n)

end Turns

/-- When all work is done, each worker has come to what it would have come to alone. -/
theorem Amidst.workers_eq {dir : String} {plans : List Worker} {t₀ : Tree} {s : List Worker × Tree}
    (amidst : Amidst dir plans t₀ s) (finished : ∀ w ∈ s.1, w.left = []) :
    s.1 = plans.map fun w => (w.finish t₀).1 := by
  refine List.ext_getElem (by rw [List.length_map, amidst.length]) fun n within within' => ?_
  rw [List.getElem_map]
  rw [List.length_map] at within'
  exact ((amidst.each (List.getElem?_eq_getElem within') (List.getElem?_eq_getElem within)).done
    (finished _ (List.getElem_mem within))).1

theorem Amidst.node?_eq {dir : String} {plans : List Worker} {t₀ : Tree} {s s' : List Worker × Tree}
    (amidst : Amidst dir plans t₀ s) (finished : ∀ w ∈ s.1, w.left = [])
    (amidst' : Amidst dir plans t₀ s') (finished' : ∀ w ∈ s'.1, w.left = []) (q : Place) :
    s.2.node? q = s'.2.node? q := by
  by_cases planned : ∃ w₀ ∈ plans, ∃ step ∈ w₀.left, q = placeOf step.path
  · obtain ⟨w₀, among, step, member, rfl⟩ := planned
    obtain ⟨n, within, rfl⟩ := List.mem_iff_getElem.mp among
    have alone {s : List Worker × Tree} (amidst : Amidst dir plans t₀ s) (finished : ∀ w ∈ s.1, w.left = []) :
        s.2.node? (placeOf step.path) = (plans[n].finish t₀).2.node? (placeOf step.path) := by
      have within' : n < s.1.length := by rwa [amidst.length]
      exact ((amidst.each (List.getElem?_eq_getElem within) (List.getElem?_eq_getElem within')).done
        (finished _ (List.getElem_mem within'))).2 step member
    rw [alone amidst finished, alone amidst' finished']
  · have away : ∀ w₀ ∈ plans, ∀ step ∈ w₀.left, q ≠ placeOf step.path :=
      fun w₀ among step member same => planned ⟨w₀, among, step, member, same⟩
    rw [amidst.others q away, amidst'.others q away]

/-- A turn takes one step off what is left, or more if the plan is given up. -/
theorem Worker.length_work (w : Worker) (t : Tree) : (w.work t).1.left.length ≤ w.left.length - 1 := by
  rcases w.work_cases t with ⟨done, idle⟩ | ⟨step, rest, left, _, worked⟩
  · rw [idle, done]
    exact Nat.le_refl _
  · rw [worked, left]
    split
    · exact Nat.le_refl _
    · exact Nat.zero_le _

/-- All work is done when every worker has had as many turns as its plan has steps. -/
theorem takeTurns_finished {order : List Nat} {s : List Worker × Tree}
    (enough : ∀ n w, s.1[n]? = some w → w.left.length ≤ order.count n) :
    ∀ w ∈ (takeTurns order s).1, w.left = [] := by
  induction order generalizing s with
  | nil =>
    intro w member
    obtain ⟨n, present⟩ := List.getElem?_of_mem member
    exact List.length_eq_zero_iff.mp (Nat.le_zero.mp (enough n w present))
  | cons n order ih =>
    refine ih fun m w present => ?_
    unfold turn at present
    split at present
    · rename_i absent
      have other : n ≠ m := by
        rintro rfl
        cases absent.symm.trans present
      rw [← List.count_cons_of_ne other]
      exact enough m w present
    · rename_i u found
      rw [List.getElem?_set] at present
      split at present
      · rename_i same
        subst same
        split at present
        · cases present
          have turns := enough n u found
          rw [List.count_cons_self] at turns
          exact Nat.le_trans (u.length_work s.2) (Nat.sub_le_of_le_add turns)
        · cases present
      · rename_i other
        rw [← List.count_cons_of_ne other]
        exact enough m w present

/-- The workers do all their work one after another. -/
def finishEach : List Worker → Tree → List Worker × Tree
  | [], t => ([], t)
  | w :: rest, t =>
    let (w, t) := w.finish t
    let (rest, t) := finishEach rest t
    (w :: rest, t)

theorem takeTurns_append (order more : List Nat) (s : List Worker × Tree) :
    takeTurns (order ++ more) s = takeTurns more (takeTurns order s) := List.foldl_append ..

theorem turn_at (before : List Worker) (w : Worker) (after : List Worker) (t : Tree) :
    turn (before ++ w :: after, t) before.length = (before ++ (w.work t).1 :: after, (w.work t).2) := by
  simp [turn]

theorem takeTurns_at {before after : List Worker} {w : Worker} {t : Tree} {enough : Nat}
    (few : w.left.length ≤ enough) :
    takeTurns (List.replicate enough before.length) (before ++ w :: after, t) =
      (before ++ (w.finish t).1 :: after, (w.finish t).2) := by
  induction enough generalizing w t with
  | zero =>
    rw [Worker.finish_of_done (List.length_eq_zero_iff.mp (Nat.le_zero.mp few))]
    rfl
  | succ enough ih =>
    have fewer : (w.work t).1.left.length ≤ enough := by
      have := w.length_work t
      omega
    rw [List.replicate_succ, takeTurns, List.foldl_cons, turn_at]
    rw [← w.finish_work t]
    exact ih fewer

/-- To work one after another is one of the orders. -/
theorem exists_order (before ws : List Worker) (t : Tree) :
    ∃ order, takeTurns order (before ++ ws, t) = (before ++ (finishEach ws t).1, (finishEach ws t).2) := by
  induction ws generalizing before t with
  | nil => exact ⟨[], rfl⟩
  | cons w rest ih =>
    obtain ⟨order, others⟩ := ih (before ++ [(w.finish t).1]) (w.finish t).2
    refine ⟨List.replicate w.left.length before.length ++ order, ?_⟩
    rw [takeTurns_append, takeTurns_at (Nat.le_refl _)]
    simp only [List.append_assoc, List.singleton_append] at others
    exact others

theorem finishEach_done (ws : List Worker) (t : Tree) : ∀ w ∈ (finishEach ws t).1, w.left = [] := by
  induction ws generalizing t with
  | nil => simp [finishEach]
  | cons w rest ih => exact List.forall_mem_cons.mpr ⟨rfl, ih (w.finish t).2⟩

/-- The steps that write a dump. -/
def Dump.steps (w : Csv.Writer) (d : Dump) (dir : String) (index : Nat) : List WriteStep :=
  match d.payload with
  | none => []
  | some p => p.steps w dir index

def Dump.files (d : Dump) (dir : String) (index : Nat) : List String :=
  match d.payload with
  | none => []
  | some p => p.files dir index

/-- The worker that is to write the dump of a client. -/
def Frozen.worker {ρ : Type} (w : Csv.Writer) (dir : String) (index : Nat) (f : Frozen ρ Dump) : Worker :=
  ⟨f.name, f.dump.files dir index, f.dump.steps w dir index, none⟩

/-- What comes of writing a dump is what its worker comes to. -/
theorem worker_finish {ρ : Type} (w : Csv.Writer) (f : Frozen ρ Dump) (dir : String) (index : Nat) (t : Tree) :
    f.dump.write w dir index t =
      (match ((f.worker w dir index).finish t).1.failure with
        | none => .ok (f.dump.files dir index)
        | some e => .error e,
        ((f.worker w dir index).finish t).2) := by
  unfold Dump.write Frozen.worker Worker.finish Dump.steps Dump.files
  cases f.dump.payload with
  | none => rfl
  | some p =>
    simp only [Payload.write, Option.or_none]
    cases run : WriteStep.runAll (p.steps w dir index) t with
    | mk failure t' => cases failure <;> rfl

end Chunk

/-- The kinds of data that an instrument of the rig writes. -/
def Instrument.kinds : Instrument → List String
  | .lidar => ["lidar", "imu"]
  | .gnss => ["gnss"]
  | .cameras => ["camera"]
  | .panel | .storage | .sensor _ => []

theorem Instrument.kinds_apart {r r' : Instrument} (other : r ≠ r') {kind : String} (mine : kind ∈ r.kinds) :
    kind ∉ r'.kinds := by
  intro theirs
  cases r <;> cases r' <;> simp_all [Instrument.kinds]

namespace Instruments

open Chunk Storage

/-- Every file that an instrument writes lies in the directory under a name that bears one of its kinds. -/
theorem freeze_bears {r : Instrument} (real : r.isReal = true) {w : Csv.Writer} {i : Instruments} {dir : String}
    {index : Nat} {step : WriteStep} (planned : step ∈ (i.freeze r).1.steps w dir index) :
    ∃ kind ∈ r.kinds, ∃ file, step.path = Path.join dir file ∧ Bears kind index file := by
  cases r with
  | lidar => exact bears_of_mem_files (p := .scans ..) rfl (path_mem_files planned)
  | gnss => exact bears_of_mem_files (p := .sentences _) rfl (path_mem_files (w := w) planned)
  | cameras => exact bears_of_mem_files (p := .frames _) rfl (path_mem_files planned)
  | panel | storage => cases planned
  | sensor => cases real

/-- Two instruments have no file in common, whatever they have recorded and whichever chunks it is. -/
theorem freeze_apart {r r' : Instrument} (real : r.isReal = true) (real' : r'.isReal = true) (other : r ≠ r')
    {w w' : Csv.Writer} {i i' : Instruments} {dir : String} {index index' : Nat} {step step' : WriteStep}
    (planned : step ∈ (i.freeze r).1.steps w dir index) (planned' : step' ∈ (i'.freeze r').1.steps w' dir index') :
    ∃ file file', Path.IsEntry file ∧ Path.IsEntry file' ∧ step.path = Path.join dir file ∧
      step'.path = Path.join dir file' ∧ file ≠ file' := by
  obtain ⟨kind, mine, file, path, bears⟩ := freeze_bears real planned
  obtain ⟨kind', theirs, file', path', bears'⟩ := freeze_bears real' planned'
  refine ⟨file, file', bears.namedFor.isEntry, bears'.namedFor.isEntry, path, path', ?_⟩
  rintro rfl
  exact Instrument.kinds_apart other mine (bears.unique bears' ▸ theirs)

end Instruments

namespace Chunk

theorem Freezing.dump_eq {ρ σ δ : Type} {freeze : ρ → σ → δ × σ} {clients : List (String × ρ)} {i j : σ}
    {frozen : List (Frozen ρ δ)} (freezing : Freezing freeze clients i frozen j) :
    ∀ f ∈ frozen, ∃ i, (freeze f.client i).1 = f.dump := by
  induction freezing with
  | nil => simp
  | @cons _ _ _ i _ _ _ _ gives _ ih => exact List.forall_mem_cons.mpr ⟨⟨i, by rw [gives]⟩, ih⟩

/-- A directory that is not refused has a name and can be written to. -/
theorem open_of_good {t : Storage.Tree} {dir : String} (good : ∀ e, ¬Refusal t dir e) :
    dir ≠ "" ∧ ∃ n, t.lookup dir = .ok n ∧ n.isDirectory = true ∧ n.readOnly = false := by
  have named : dir ≠ "" := by
    rintro rfl
    exact good _ .empty
  refine ⟨named, ?_⟩
  cases found : t.lookup dir with
  | error cause => exact absurd (.inaccessible named found) (good _)
  | ok n =>
    cases directory : n.isDirectory with
    | false => exact absurd (.notADirectory named found directory) (good _)
    | true =>
      cases locked : n.readOnly with
      | true => exact absurd (.readOnly named found directory locked) (good _)
      | false => exact ⟨n, rfl, directory, locked⟩

end Chunk

namespace Rig

open Chunk Storage

/-- The workers that are to write the dumps of a commit, in order of attachment. -/
def workers (dir : String) (index : Nat) (g : Station) : List Worker :=
  (g.gatheredDumps Instruments.equipment).map (Frozen.worker g.instruments.writer dir index)

/-- A commit lets the workers do their work one after another. -/
theorem persistEach_eq_finishEach (dir : String) (index : Nat) {frozen : List (Frozen Instrument Dump)}
    (real : ∀ f ∈ frozen, f.client.isReal = true) (g : Station) :
    (persistEach Instruments.equipment dir index frozen g).1 =
        (finishEach (frozen.map (Frozen.worker g.instruments.writer dir index)) g.files).1.map Worker.outcome ∧
      (persistEach Instruments.equipment dir index frozen g).2.files =
        (finishEach (frozen.map (Frozen.worker g.instruments.writer dir index)) g.files).2 := by
  induction frozen generalizing g with
  | nil => exact ⟨rfl, rfl⟩
  | cons f rest ih =>
    obtain ⟨here, others⟩ := List.forall_mem_cons.mp real
    have written : Instruments.equipment.persist f.client f.dump g.instruments dir index g.files =
        (((f.worker g.instruments.writer dir index).finish g.files).1.outcome.2,
          ((f.worker g.instruments.writer dir index).finish g.files).2) := by
      refine (Instruments.persist_real here ..).trans ?_
      rw [worker_finish]
      unfold Worker.outcome
      cases ((f.worker g.instruments.writer dir index).finish g.files).1.failure <;> rfl
    rw [List.map_cons]
    have named : ((f.worker g.instruments.writer dir index).finish g.files).1.outcome.1 = f.name := rfl
    generalize f.worker g.instruments.writer dir index = w at written named ⊢
    obtain ⟨outcomes, files⟩ := ih others
      ({ g with files := (w.finish g.files).2 }.note
        (.persisted f.client f.dump dir index (w.finish g.files).1.outcome.2 (w.finish g.files).2))
    simp only [persistEach, finishEach, written]
    exact ⟨by rw [outcomes, ← named]; rfl, files⟩

/-- The clients that record, under their own names. -/
def recorders : List (String × Instrument) :=
  [(Lidar.clientName, .lidar), (Gnss.clientName, .gnss), (Camera.clientName, .cameras)]

theorem recorders_real : ∀ c ∈ recorders, c.2.isReal = true := by decide

theorem recorders_apart : ∀ c ∈ recorders, ∀ c' ∈ recorders, c ≠ c' → c.2 ≠ c'.2 := by decide

section Recorders

variable {g : Station} (own : g.registry.dumpables ⊆ recorders)

include own

theorem gatheredDumps_own {f : Frozen Instrument Dump} (member : f ∈ g.gatheredDumps Instruments.equipment) :
    (f.name, f.client) ∈ recorders ∧ ∃ i : Instruments, (i.freeze f.client).1 = f.dump := by
  have freezing := freezing_freezeEach Instruments.equipment g.registry.dumpables g
  have among := (List.mem_filter.mp member).1
  refine ⟨own ?_, freezing.dump_eq f among⟩
  rw [← freezing.clients]
  exact List.mem_map_of_mem among

theorem gatheredDumps_real {f : Frozen Instrument Dump} (member : f ∈ g.gatheredDumps Instruments.equipment) :
    f.client.isReal = true :=
  recorders_real _ (gatheredDumps_own own member).1

theorem workers_lie (dir : String) (index : Nat) :
    ∀ w ∈ g.workers dir index, ∀ step ∈ w.left, step.LiesIn dir := by
  intro w among step planned
  obtain ⟨f, member, rfl⟩ := List.mem_map.mp among
  obtain ⟨_, i, dump⟩ := gatheredDumps_own own member
  have planned : step ∈ f.dump.steps g.instruments.writer dir index := planned
  rw [← dump] at planned
  obtain ⟨_, _, file, path, bears⟩ := Instruments.freeze_bears (gatheredDumps_real own member) planned
  exact ⟨file, bears.namedFor.isEntry, path⟩

theorem workers_apart (once : g.registry.dumpables.Nodup) {dir : String} (named : dir ≠ "") (index : Nat) :
    (g.workers dir index).Pairwise Worker.Apart := by
  have freezing := freezing_freezeEach Instruments.equipment g.registry.dumpables g
  have distinct : (g.gatheredDumps Instruments.equipment).Pairwise
      fun f f' => (f.name, f.client) ≠ (f'.name, f'.client) := by
    rw [← freezing.clients] at once
    exact (List.pairwise_map.mp once).filter _
  refine List.pairwise_map.mpr (distinct.imp_of_mem fun {f f'} member member' other => ?_)
  have different : f.client ≠ f'.client :=
    recorders_apart _ (gatheredDumps_own own member).1 _ (gatheredDumps_own own member').1 other
  intro step planned step' planned' same
  obtain ⟨_, i, dump⟩ := gatheredDumps_own own member
  obtain ⟨_, i', dump'⟩ := gatheredDumps_own own member'
  have planned : step ∈ f.dump.steps g.instruments.writer dir index := planned
  have planned' : step' ∈ f'.dump.steps g.instruments.writer dir index := planned'
  rw [← dump] at planned
  rw [← dump'] at planned'
  obtain ⟨file, file', entry, entry', path, path', apart⟩ :=
    Instruments.freeze_apart (gatheredDumps_real own member) (gatheredDumps_real own member') different planned planned'
  rw [path, path', placeOf_join entry named, placeOf_join entry' named] at same
  exact apart (List.cons.inj (List.append_cancel_left same)).1

/-- What a commit comes to is what its workers come to, one after another. -/
theorem stored_eq_finishEach (dir : String) (index : Nat) (stop : Bool) :
    g.outcomes Instruments.equipment dir index stop =
        (finishEach (g.workers dir index) g.files).1.map Worker.outcome ∧
      (g.stored Instruments.equipment dir index stop).files = (finishEach (g.workers dir index) g.files).2 := by
  have whole := persistEach_eq_finishEach dir index (fun f => gatheredDumps_real own)
    (g.gathered Instruments.equipment stop)
  have writer : (g.gathered Instruments.equipment stop).instruments.writer = g.instruments.writer :=
    gathered_kept Instruments.equipment (P := fun i => i.writer = g.instruments.writer)
      (fun r i same => (Instruments.freeze_writer r i).trans same)
      (fun r i same => (Instruments.stop_writer r i).trans same) rfl stop
  rwa [gathered_files, writer] at whole

end Recorders

/-- No two of the clients that record write a file of the same path. -/
theorem recorders_disjoint {c c' : String × Instrument} (among : c ∈ recorders) (among' : c' ∈ recorders)
    (other : c ≠ c') {i i' : Instruments} {w w' : Csv.Writer} {dir : String} {m n : Nat} {step step' : WriteStep}
    (planned : step ∈ (i.freeze c.2).1.steps w dir m) (planned' : step' ∈ (i'.freeze c'.2).1.steps w' dir n) :
    step.path ≠ step'.path := by
  intro same
  obtain ⟨file, file', entry, entry', path, path', apart⟩ :=
    Instruments.freeze_apart (recorders_real c among) (recorders_real c' among')
      (recorders_apart c among c' among' other) planned planned'
  rw [path, path'] at same
  exact apart (entry.join_injective entry' same)

/-- A commit with the scanners, the receiver and the cameras under their own names, into a directory that is not
refused and has no flaw. No two of them have a file in common, whatever they have recorded and whichever chunks it is.
The commit goes well, and in whatever order the workers take turns until all their work is done, the files that are
named, the clients that have failed and all that is on the storage at last are the same. An order in which each has as
many turns as its plan has steps is enough. -/
theorem persist_order_irrelevant {g : Station} {dir : String} {index : Nat} {stop : Bool}
    (good : ∀ e, ¬Refusal g.files dir e) (own : g.registry.dumpables ⊆ recorders)
    (once : g.registry.dumpables.Nodup) (sound : g.files.flaw? (placeOf dir) = none) :
    (∀ c ∈ recorders, ∀ c' ∈ recorders, c ≠ c' → ∀ (i i' : Instruments) w w' dir m n,
      ∀ step ∈ (i.freeze c.2).1.steps w dir m, ∀ step' ∈ (i'.freeze c'.2).1.steps w' dir n, step.path ≠ step'.path) ∧
    ∃ report g', g.commit Instruments.equipment dir index stop = (.ok report, g') ∧
      ∀ order ws t, takeTurns order (g.workers dir index, g.files) = (ws, t) →
        ((∀ n w, (g.workers dir index)[n]? = some w → w.left.length ≤ order.count n) → ∀ w ∈ ws, w.left = []) ∧
        ((∀ w ∈ ws, w.left = []) →
          filesOf (ws.map Worker.outcome) = report.files ∧ failedOf (ws.map Worker.outcome) = report.failed ∧
            ∀ p, t.node? p = g'.files.node? p) := by
  refine ⟨fun c among c' among' other i i' w w' dir m n step planned step' planned' =>
    recorders_disjoint among among' other planned planned', ?_⟩
  obtain ⟨named, n, found, directory, unlocked⟩ := open_of_good good
  have opened : Open g.files dir := by
    refine Tree.isWritable_open ?_
    simp [Tree.isWritable, found, Node.isOpen, directory, unlocked]
  have amidst (order : List Nat) :
      Amidst dir (g.workers dir index) g.files (takeTurns order (g.workers dir index, g.files)) :=
    (Amidst.start opened).takeTurns named (workers_lie own dir index) (workers_apart own once named index) order
  -- The commit itself is one of the orders.
  obtain ⟨outcomes, files⟩ := stored_eq_finishEach own dir index stop
  have finished := finishEach_done (g.workers dir index) g.files
  obtain ⟨order₀, one⟩ : ∃ order,
      takeTurns order (g.workers dir index, g.files) = finishEach (g.workers dir index) g.files :=
    exists_order [] (g.workers dir index) g.files
  have amidst₀ := amidst order₀
  rw [one] at amidst₀
  have synced : (g.stored Instruments.equipment dir index stop).sync Instruments.equipment dir = .ok () := by
    have lasting := amidst₀.kept.lookup directory found
    have unharmed := Tree.flaw?_eq_of_flaws amidst₀.flaws (placeOf dir)
    rw [← files] at lasting unharmed
    exact Tree.sync_eq_ok lasting (unharmed.trans sound)
  have run := commit_checked Instruments.equipment (checkDirectory_eq_ok.mpr good) index stop
  simp only [synced, outcomes] at run
  refine ⟨_, _, run, fun order ws t taken => ⟨fun enough => ?_, fun done => ?_⟩⟩
  · have all := takeTurns_finished (s := (g.workers dir index, g.files)) enough
    rwa [taken] at all
  · have whole := amidst order
    rw [taken] at whole
    have same : ws = (finishEach (g.workers dir index) g.files).1 :=
      (whole.workers_eq done).trans (amidst₀.workers_eq finished).symm
    refine ⟨by rw [same], by rw [same], fun p => ?_⟩
    exact (whole.node?_eq done amidst₀ finished p).trans (by rw [← files]; rfl)

/-- A rig with a picture, a point and a sentence to write, the cameras attached first. -/
def crowdedRig : Station where
  control := { params := {} }
  instruments :=
    { benchInstruments with
      lidar := { Lidar.Client.new ["S"] with points := [⟨0, 0, 0, 7, 0, 3, 0⟩] }
      gnss := { buffer := [⟨2, "$A"⟩] }
      cameras := { buffer := [⟨1, 5, [0xFF, 0xD8, 0xFF, 0xD9]⟩] } }
  registry :=
    [Handle.of "cameras" { dumpable := true } .cameras, .of "fs" { reporter := true } .storage,
      .of "lidar" { dumpable := true } .lidar,
      .of "gnss" { dumpable := true } .gnss].foldl (fun r h => (r.attach h).2) {}
  files := benchTree

/-- The cameras make their list, the receiver and the scanners write while the picture is taken up, and so on. -/
theorem persist_order_irrelevant_crowded :
    ∃ report g', crowdedRig.commit Instruments.equipment "usb/continuous" 7 false = (.ok report, g') ∧
      report.files =
        ["usb/continuous/camera0007_1_5.jpg", "usb/continuous/camera0007.csv", "usb/continuous/lidar0007.csv",
          "usb/continuous/lidar0007.sn", "usb/continuous/gnss0007.gnss"] ∧
      report.failed = [] ∧
      ∀ p, (takeTurns [0, 2, 1, 0, 1, 0, 0] (crowdedRig.workers "usb/continuous" 7, benchTree)).2.node? p =
        g'.files.node? p := by
  have checked : checkDirectory crowdedRig.files "usb/continuous" = .ok () := toOption_eq_some.mp (by decide +kernel)
  have own : crowdedRig.registry.dumpables ⊆ recorders := by decide
  have once : crowdedRig.registry.dumpables.Nodup := by decide
  obtain ⟨_, report, g', run, orders⟩ :=
    @persist_order_irrelevant crowdedRig "usb/continuous" 7 false (checkDirectory_eq_ok.mp checked) own once rfl
  have done : ∀ w ∈ (takeTurns [0, 2, 1, 0, 1, 0, 0] (crowdedRig.workers "usb/continuous" 7, benchTree)).1,
      w.left = [] := by decide +kernel
  obtain ⟨files, failed, tree⟩ := (orders [0, 2, 1, 0, 1, 0, 0] _ _ rfl).2 done
  exact ⟨report, g', run, files.symm.trans (by decide +kernel), failed.symm.trans (by decide +kernel), tree⟩

end Rig

end CaptureRig
