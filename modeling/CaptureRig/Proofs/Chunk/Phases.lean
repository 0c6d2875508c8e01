import CaptureRig.Proofs.Scan.Abort

namespace CaptureRig

namespace Persisted

/-- The files that have been named, none unless all went well. -/
def files : Persisted → List String
  | .wrote files => files
  | .failed _ | .broke => []

def lost : Persisted → Bool
  | .wrote _ => false
  | .failed _ | .broke => true

end Persisted

namespace Chunk

theorem filesOf_eq (outcomes : List Outcome) : filesOf outcomes = outcomes.flatMap fun o => o.2.files := by
  unfold filesOf
  congr
  funext ⟨name, outcome⟩
  cases outcome <;> rfl

theorem failedOf_eq (outcomes : List Outcome) :
    failedOf outcomes = (outcomes.filter fun o => o.2.lost).map (·.1) := by
  rw [failedOf, ← List.filterMap_eq_map, List.filterMap_filter]
  congr
  funext ⟨name, outcome⟩
  cases outcome <;> rfl

variable {ρ σ δ : Type}

/-- Clients give up their dumps one after another, each once. -/
inductive Freezing (freeze : ρ → σ → δ × σ) : List (String × ρ) → σ → List (Frozen ρ δ) → σ → Prop
  | nil (i : σ) : Freezing freeze [] i [] i
  | cons {name client rest i dump h frozen j} (gives : freeze client i = (dump, h))
      (others : Freezing freeze rest h frozen j) :
      Freezing freeze ((name, client) :: rest) i (⟨name, client, dump⟩ :: frozen) j

/-- Every client in its place has given up one dump. -/
theorem Freezing.clients {freeze : ρ → σ → δ × σ} {clients : List (String × ρ)} {i j : σ} {frozen : List (Frozen ρ δ)}
    (freezing : Freezing freeze clients i frozen j) : frozen.map (fun f => (f.name, f.client)) = clients := by
  induction freezing with
  | nil => rfl
  | cons gives others ih => rw [List.map_cons, ih]

theorem Freezing.kept {freeze : ρ → σ → δ × σ} {clients : List (String × ρ)} {i j : σ} {frozen : List (Frozen ρ δ)}
    {P : σ → Prop} (step : ∀ r i, P i → P (freeze r i).2) (freezing : Freezing freeze clients i frozen j)
    (holds : P i) : P j := by
  induction freezing with
  | nil => exact holds
  | @cons _ client _ i _ _ _ _ gives _ ih =>
    have next := step client i holds
    rw [gives] at next
    exact ih next

theorem Freezing.unique {freeze : ρ → σ → δ × σ} {clients : List (String × ρ)} {i j j' : σ}
    {frozen frozen' : List (Frozen ρ δ)} (freezing : Freezing freeze clients i frozen j)
    (again : Freezing freeze clients i frozen' j') : frozen' = frozen ∧ j' = j := by
  induction freezing generalizing frozen' with
  | nil =>
    cases again
    exact ⟨rfl, rfl⟩
  | cons gives _ ih =>
    cases again with
    | cons gives' others' =>
      cases gives.symm.trans gives'
      obtain ⟨rfl, rfl⟩ := ih others'
      exact ⟨rfl, rfl⟩

/-- The dumps that hold anything. -/
def laden (size : δ → Nat) (frozen : List (Frozen ρ δ)) : List (Frozen ρ δ) := frozen.filter fun f => size f.dump != 0

/-- The trees that there can be while dumps are written, whichever have been written before and in whatever order. -/
inductive Amid (E : Equipment ρ σ δ) (dir : String) (index : Nat) (i : σ) (frozen : List (Frozen ρ δ)) (t : Storage.Tree) :
    Storage.Tree → Prop
  | start : Amid E dir index i frozen t t
  | next {f u} (among : f ∈ frozen) (amid : Amid E dir index i frozen t u) :
      Amid E dir index i frozen t (E.persist f.client f.dump i dir index u).2

/-- Dumps are written one after another, each to what the one before it has left in the storage. -/
inductive Writing (E : Equipment ρ σ δ) (dir : String) (index : Nat) (i : σ) (outcome : ρ → δ → String → Nat → Persisted) :
    List (Frozen ρ δ) → Storage.Tree → List Storage.Tree → Storage.Tree → Prop
  | nil (t : Storage.Tree) : Writing E dir index i outcome [] t [] t
  | cons {f rest t left lefts u}
      (writes : E.persist f.client f.dump i dir index t = (outcome f.client f.dump dir index, left))
      (others : Writing E dir index i outcome rest left lefts u) :
      Writing E dir index i outcome (f :: rest) t (left :: lefts) u

theorem Writing.unique {E : Equipment ρ σ δ} {dir : String} {index : Nat} {i : σ}
    {outcome : ρ → δ → String → Nat → Persisted} {frozen : List (Frozen ρ δ)} {t u u' : Storage.Tree}
    {lefts lefts' : List Storage.Tree} (writing : Writing E dir index i outcome frozen t lefts u)
    (again : Writing E dir index i outcome frozen t lefts' u') : lefts' = lefts ∧ u' = u := by
  induction writing generalizing lefts' with
  | nil =>
    cases again
    exact ⟨rfl, rfl⟩
  | cons writes _ ih =>
    cases again with
    | cons writes' others' =>
      cases writes.symm.trans writes'
      obtain ⟨rfl, rfl⟩ := ih others'
      exact ⟨rfl, rfl⟩

/-- What is noted of the writing of dumps, each with the storage that it leaves. -/
def written (dir : String) (index : Nat) (outcome : ρ → δ → String → Nat → Persisted) :
    List (Frozen ρ δ) → List Storage.Tree → List (Call ρ δ) :=
  List.zipWith fun f left => .persisted f.client f.dump dir index (outcome f.client f.dump dir index) left

/-- Every dump that is written is noted. -/
theorem Writing.noted {E : Equipment ρ σ δ} {dir : String} {index : Nat} {i : σ}
    {outcome : ρ → δ → String → Nat → Persisted} {frozen : List (Frozen ρ δ)} {t u : Storage.Tree}
    {lefts : List Storage.Tree} (writing : Writing E dir index i outcome frozen t lefts u) {f : Frozen ρ δ}
    (member : f ∈ frozen) :
    ∃ left, .persisted f.client f.dump dir index (outcome f.client f.dump dir index) left ∈
      written dir index outcome frozen lefts := by
  induction writing with
  | nil => cases member
  | @cons first _ _ left _ _ _ _ ih =>
    rcases List.mem_cons.mp member with rfl | later
    · exact ⟨left, List.mem_cons_self⟩
    · obtain ⟨left, noted⟩ := ih later
      exact ⟨left, List.mem_cons_of_mem _ noted⟩

end Chunk

namespace Rig

open Chunk

variable {ρ σ δ : Type} (E : Equipment ρ σ δ)

/-- What comes of writing each dump of a commit depends on nothing but its client, the dump, the directory and the
number, so not on what the others have done to the files. -/
def Independent (dir : String) (index : Nat) (stop : Bool) (outcome : ρ → δ → String → Nat → Persisted)
    (g : Rig ρ σ δ) : Prop :=
  ∀ f ∈ g.gatheredDumps E, ∀ t,
    Amid E dir index (g.gathered E stop).instruments (g.gatheredDumps E) g.files t →
    (E.persist f.client f.dump (g.gathered E stop).instruments dir index t).1 = outcome f.client f.dump dir index

theorem freezing_freezeEach (clients : List (String × ρ)) (g : Rig ρ σ δ) :
    Freezing E.freeze clients g.instruments (freezeEach E clients g).1 (freezeEach E clients g).2.instruments := by
  induction clients generalizing g with
  | nil => exact .nil g.instruments
  | cons entry rest ih =>
    obtain ⟨name, client⟩ := entry
    have others := ih ({ g with instruments := (E.freeze client g.instruments).2 }.note
      (.froze client (E.freeze client g.instruments).1))
    exact .cons rfl others

/-- Dumps of which none depends on the others come to the same whatever has been written before. -/
theorem persistEach_writing {dir : String} {index : Nat} {outcome : ρ → δ → String → Nat → Persisted}
    {frozen : List (Frozen ρ δ)} {t : Storage.Tree} {i : σ}
    (own : ∀ f ∈ frozen, ∀ u, Amid E dir index i frozen t u →
      (E.persist f.client f.dump i dir index u).1 = outcome f.client f.dump dir index)
    {rest : List (Frozen ρ δ)} (among : rest ⊆ frozen) {g : Rig ρ σ δ} (same : g.instruments = i)
    (amid : Amid E dir index i frozen t g.files) :
    ∃ lefts, Writing E dir index i outcome rest g.files lefts (persistEach E dir index rest g).2.files ∧
      (persistEach E dir index rest g).2.calls = g.calls ++ written dir index outcome rest lefts ∧
      (persistEach E dir index rest g).1 = rest.map fun f => (f.name, outcome f.client f.dump dir index) := by
  induction rest generalizing g with
  | nil => exact ⟨[], .nil _, (List.append_nil _).symm, rfl⟩
  | cons f rest ih =>
    obtain ⟨first, others⟩ := List.cons_subset.mp among
    subst i
    have writes := own f first g.files amid
    obtain ⟨lefts, writing, calls, outcomes⟩ := ih others
      (g := { g with files := (E.persist f.client f.dump g.instruments dir index g.files).2 }.note
        (.persisted f.client f.dump dir index (E.persist f.client f.dump g.instruments dir index g.files).1
          (E.persist f.client f.dump g.instruments dir index g.files).2)) rfl (.next first amid)
    refine ⟨_ :: lefts, .cons (Prod.ext writes rfl) writing, calls.trans ?_, ?_⟩
    · rw [writes]
      exact List.append_assoc ..
    · rw [List.map_cons, ← outcomes, ← writes]
      rfl

/-- What a commit notes when it is not refused: every dump, every logger that is stopped, then every dump that holds
anything with what comes of writing it and what that leaves. -/
def phases (size : δ → Nat) (dir : String) (index : Nat) (stop : Bool) (loggers : List ρ) (frozen : List (Frozen ρ δ))
    (outcome : ρ → δ → String → Nat → Persisted) (lefts : List Storage.Tree) : List (Call ρ δ) :=
  frozen.map (fun f => .froze f.client f.dump) ++ (if stop then loggers.map .stopped else []) ++
    written dir index outcome (laden size frozen) lefts

theorem gathered_calls (stop : Bool) (g : Rig ρ σ δ) :
    (g.gathered E stop).calls =
      g.calls ++ (freezeEach E g.registry.dumpables g).1.map (fun f => .froze f.client f.dump) ++
        if stop then g.registry.loggers.map .stopped else [] := by
  unfold gathered
  cases stop with
  | false => simp only [Bool.false_eq_true, if_false, List.append_nil]; rw [freezeEach_eq]
  | true => simp only [if_true]; rw [stopAll_eq, freezeEach_eq]

theorem gathered_instruments (stop : Bool) (g : Rig ρ σ δ) :
    (g.gathered E stop).instruments =
      if stop then g.registry.loggers.foldl (fun i r => E.stop r i) (freezeEach E g.registry.dumpables g).2.instruments
      else (freezeEach E g.registry.dumpables g).2.instruments := by
  unfold gathered
  cases stop with
  | false => rfl
  | true => simp only [if_true]; rw [stopAll_eq, freezeEach_eq]

/-- What neither a freeze nor a stop changes in the instruments is the same when a commit comes to write. -/
theorem gathered_kept {P : σ → Prop} (freeze : ∀ r i, P i → P (E.freeze r i).2) (stop : ∀ r i, P i → P (E.stop r i))
    {g : Rig ρ σ δ} (holds : P g.instruments) (stopping : Bool) : P (g.gathered E stopping).instruments := by
  have frozen : P (freezeEach E g.registry.dumpables g).2.instruments :=
    (freezing_freezeEach E g.registry.dumpables g).kept freeze holds
  rw [gathered_instruments]
  split
  · generalize (freezeEach E g.registry.dumpables g).2.instruments = i at frozen
    induction g.registry.loggers generalizing i with
    | nil => exact frozen
    | cons r rest ih => exact ih _ (stop r i frozen)
  · exact frozen

theorem stored_instruments (dir : String) (index : Nat) (stop : Bool) (g : Rig ρ σ δ) :
    (g.stored E dir index stop).instruments = (g.gathered E stop).instruments := by
  rw [stored, persistEach_eq]

theorem stored_writing {dir : String} {index : Nat} {stop : Bool} {outcome : ρ → δ → String → Nat → Persisted}
    {g : Rig ρ σ δ} (own : g.Independent E dir index stop outcome) :
    ∃ lefts, Writing E dir index (g.gathered E stop).instruments outcome (g.gatheredDumps E) g.files lefts
        (g.stored E dir index stop).files ∧
      (g.stored E dir index stop).calls =
        g.calls ++ phases E.size dir index stop g.registry.loggers (freezeEach E g.registry.dumpables g).1 outcome lefts ∧
      g.outcomes E dir index stop = (g.gatheredDumps E).map fun f => (f.name, outcome f.client f.dump dir index) := by
  obtain ⟨lefts, writing, calls, outcomes⟩ :=
    persistEach_writing E own (List.Subset.refl _) (g := g.gathered E stop) rfl (by rw [gathered_files]; exact .start)
  rw [gathered_files] at writing
  rw [gathered_calls, List.append_assoc, List.append_assoc, ← List.append_assoc (List.map _ _)] at calls
  exact ⟨lefts, writing, calls, outcomes⟩

/-- A commit into a directory that is not refused leaves the clients frozen and stopped, and has noted its phases. -/
theorem commit_phases {dir : String} {index : Nat} {stop : Bool} {outcome : ρ → δ → String → Nat → Persisted}
    {g : Rig ρ σ δ} (good : ∀ e, ¬Refusal g.files dir e) (own : g.Independent E dir index stop outcome)
    {frozen : List (Frozen ρ δ)} {left : σ}
    (freezing : Freezing E.freeze g.registry.dumpables g.instruments frozen left) :
    (g.commit E dir index stop).2.instruments =
        (if stop then g.registry.loggers.foldl (fun i r => E.stop r i) left else left) ∧
      ∃ lefts, Writing E dir index (g.commit E dir index stop).2.instruments outcome (laden E.size frozen) g.files lefts
          (g.commit E dir index stop).2.files ∧
        (g.commit E dir index stop).2.calls =
          g.calls ++ phases E.size dir index stop g.registry.loggers frozen outcome lefts := by
  obtain ⟨rfl, rfl⟩ := freezing.unique (freezing_freezeEach E g.registry.dumpables g)
  have instruments := stored_instruments E dir index stop g
  have stopped := instruments.trans (gathered_instruments E stop g)
  obtain ⟨lefts, writing, calls, _⟩ := stored_writing E own
  rw [← instruments] at writing
  rcases commit_cases E dir index stop g with ⟨e, refused, _⟩ | ⟨_, ⟨e, run⟩ | ⟨report, run⟩⟩
  · exact absurd (checkDirectory_eq_error.mp refused) (good e)
  · rw [run]
    exact ⟨stopped, lefts, writing, calls⟩
  · rw [run]
    exact ⟨stopped, lefts, writing, calls⟩

/-- A commit into a good directory that can be synced at last freezes every client once in order of attachment, then, if
that is asked for, stops every logger once in that order, then writes each dump that holds anything once and no other,
each to what the one before it has left in the storage. It goes well whatever is lost, and names the files that have
been written and the clients that have failed, all in order of attachment; only these are counted as failures. If what
is lost were written after all, or anything else came of it, the dumps and the instruments would be the same, and so
would be the files of every client that has not failed. -/
theorem commit_isolates_failures {dir : String} {index : Nat} {stop : Bool}
    {outcome : ρ → δ → String → Nat → Persisted} {g : Rig ρ σ δ} (good : ∀ e, ¬Refusal g.files dir e)
    (own : g.Independent E dir index stop outcome)
    (synced : (g.commit E dir index stop).2.sync E dir = .ok ()) :
    ∃ frozen left lefts report g',
      frozen.map (fun f => (f.name, f.client)) = g.registry.dumpables ∧
      Freezing E.freeze g.registry.dumpables g.instruments frozen left ∧
      g.commit E dir index stop = (.ok report, g') ∧
      g'.instruments = (if stop then g.registry.loggers.foldl (fun i r => E.stop r i) left else left) ∧
      Writing E dir index g'.instruments outcome (laden E.size frozen) g.files lefts g'.files ∧
      g'.calls = g.calls ++ phases E.size dir index stop g.registry.loggers frozen outcome lefts ∧
      report.index = index ∧
      report.files = (laden E.size frozen).flatMap (fun f => (outcome f.client f.dump dir index).files) ∧
      report.failed = ((laden E.size frozen).filter fun f => (outcome f.client f.dump dir index).lost).map (·.name) ∧
      g'.stats =
        { commits := g.stats.commits + 1, barriers := g.stats.barriers + 1
          persistFailures := g.stats.persistFailures + report.failed.length, lastChunk := index
          lastMicros := E.commitMicros g'.instruments } ∧
      ∀ persist outcome', g.Independent { E with persist } dir index stop outcome' →
        (∀ f ∈ laden E.size frozen, (outcome f.client f.dump dir index).lost = false →
          outcome' f.client f.dump dir index = outcome f.client f.dump dir index) →
        (g.commit { E with persist } dir index stop).2.instruments = g'.instruments ∧
        ∃ lefts', Writing { E with persist } dir index g'.instruments outcome' (laden E.size frozen) g.files lefts'
            (g.commit { E with persist } dir index stop).2.files ∧
          (g.commit { E with persist } dir index stop).2.calls =
            g.calls ++ phases E.size dir index stop g.registry.loggers frozen outcome' lefts' ∧
          ∀ f ∈ laden E.size frozen, (outcome f.client f.dump dir index).lost = false →
            ∃ left', Call.persisted f.client f.dump dir index (outcome f.client f.dump dir index) left' ∈
              phases E.size dir index stop g.registry.loggers frozen outcome' lefts' := by
  have freezing := freezing_freezeEach E g.registry.dumpables g
  obtain ⟨instruments, lefts, writing, calls⟩ := commit_phases E good own freezing
  have checked := checkDirectory_eq_ok.mpr good
  have run := commit_checked E checked index stop
  rw [← commit_sync E checked, synced] at run
  obtain ⟨_, _, _, outcomes⟩ := stored_writing E own
  rw [run] at instruments writing calls
  refine ⟨_, _, lefts, _, _, freezing.clients, freezing, run, instruments, writing, calls, rfl, ?_, ?_, ?_, ?_⟩
  · rw [filesOf_eq, outcomes, List.flatMap_map]
    rfl
  · rw [failedOf_eq, outcomes, List.filter_map, List.map_map]
    rfl
  · simp only [countCommit, stored_stats]
  · intro persist outcome' own' agree
    obtain ⟨instruments', lefts', writing', calls'⟩ := commit_phases { E with persist } good own' freezing
    have same := instruments'.trans instruments.symm
    refine ⟨same, lefts', same ▸ writing', calls', fun f member kept => ?_⟩
    obtain ⟨left', noted⟩ := writing'.noted member
    rw [agree f member kept] at noted
    exact ⟨left', List.mem_append_right _ noted⟩

/-- A rig with the receiver logging, a sensor that fails to write, one that breaks down over it, one with nothing to
write, and the cameras, which only log. -/
def troubledRig : Station :=
  let sensor (behaviour : Rehearsal.Behaviour) (records : List String) : Rehearsal.Sensor :=
    { reportName := "", records, behaviour }
  { control := { params := {} }
    instruments :=
      { ((benchInstruments.addSensor "burner" (sensor .fails ["a"])).addSensor "breaker" (sensor .breaks ["b"])).addSensor
          "idler" (sensor .good []) with
        gnss := { logging := true, buffer := [⟨2, "$A"⟩] } }
    registry :=
      [Handle.of "burner" { dumpable := true } (.sensor "burner"), .of "gnss" { logger := true, dumpable := true } .gnss,
        .of "idler" { dumpable := true } (.sensor "idler"), .of "cameras" { logger := true } .cameras,
        .of "breaker" { logger := true, dumpable := true } (.sensor "breaker")].foldl (fun r h => (r.attach h).2) {}
    files := benchTree }

/-- What comes of writing a dump of the troubled rig before any other. -/
def troubledOutcome (r : Instrument) (d : Chunk.Dump) (dir : String) (index : Nat) : Persisted :=
  (Instruments.equipment.persist r d (troubledRig.gathered Instruments.equipment true).instruments dir index benchTree).1

theorem troubledRig_gatheredDumps : troubledRig.gatheredDumps Instruments.equipment =
    [⟨"burner", .sensor "burner", ⟨"burner", some (.texts "burner" ["a"])⟩⟩,
      ⟨"gnss", .gnss, ⟨"gnss", some (.sentences [⟨2, "$A"⟩])⟩⟩,
      ⟨"breaker", .sensor "breaker", ⟨"breaker", some (.texts "breaker" ["b"])⟩⟩] := rfl

/-- The files after the sentence of the troubled rig is written. -/
def troubledFiles : Storage.Tree := benchTree.set ["usb", "continuous", "gnss0007.gnss"] (.file (.text "2 $A\n"))

/-- The receiver writes its file whether or not it has been written, and the sensors touch no file. -/
theorem troubledRig_independent :
    troubledRig.Independent Instruments.equipment "usb/continuous" 7 true troubledOutcome := by
  have trees : ∀ t, Amid Instruments.equipment "usb/continuous" 7
      (troubledRig.gathered Instruments.equipment true).instruments (troubledRig.gatheredDumps Instruments.equipment)
      benchTree t → t = benchTree ∨ t = troubledFiles := by
    intro t amid
    induction amid with
    | start => exact Or.inl rfl
    | @next f u among _ ih =>
      rw [troubledRig_gatheredDumps] at among
      simp only [List.mem_cons, List.not_mem_nil, or_false] at among
      rcases among with rfl | rfl | rfl
      · exact ih
      · right
        rcases ih with rfl | rfl <;> decide +kernel
      · exact ih
  intro f among t amid
  rw [troubledRig_gatheredDumps] at among
  simp only [List.mem_cons, List.not_mem_nil, or_false] at among
  rcases trees t amid with rfl | rfl
  · rfl
  · rcases among with rfl | rfl | rfl <;> decide +kernel

/-- What would come of writing the dumps of the troubled rig if the sensors did not fail. -/
def healedOutcome (r : Instrument) (d : Chunk.Dump) (dir : String) (index : Nat) : Persisted :=
  match r with
  | .gnss => troubledOutcome r d dir index
  | _ => .wrote []

theorem troubledRig_writing :
    Writing Instruments.equipment "usb/continuous" 7 (troubledRig.gathered Instruments.equipment true).instruments
      troubledOutcome (troubledRig.gatheredDumps Instruments.equipment) benchTree
      [benchTree, troubledFiles, troubledFiles] troubledFiles := by
  rw [troubledRig_gatheredDumps]
  refine .cons ?_ (.cons ?_ (.cons ?_ (.nil _))) <;> decide +kernel

/-- The sentence is written and named, and both sensors that lose their data are told by name. The receiver would not
be left otherwise if they had not failed. -/
theorem commit_isolates_failures_troubled :
    ∃ report g', troubledRig.commit Instruments.equipment "usb/continuous" 7 true = (.ok report, g') ∧
      report.files = ["usb/continuous/gnss0007.gnss"] ∧ report.failed = ["burner", "breaker"] ∧
      g'.stats.persistFailures = 2 ∧ g'.files = troubledFiles ∧
      g'.calls =
        [.froze (.sensor "burner") ⟨"burner", some (.texts "burner" ["a"])⟩,
          .froze .gnss ⟨"gnss", some (.sentences [⟨2, "$A"⟩])⟩,
          .froze (.sensor "idler") ⟨"idler", some (.texts "idler" [])⟩,
          .froze (.sensor "breaker") ⟨"breaker", some (.texts "breaker" ["b"])⟩,
          .stopped .gnss, .stopped .cameras, .stopped (.sensor "breaker"),
          .persisted (.sensor "burner") ⟨"burner", some (.texts "burner" ["a"])⟩ "usb/continuous" 7
            (.failed (.unavailable "disk on fire")) benchTree,
          .persisted .gnss ⟨"gnss", some (.sentences [⟨2, "$A"⟩])⟩ "usb/continuous" 7
            (.wrote ["usb/continuous/gnss0007.gnss"]) troubledFiles,
          .persisted (.sensor "breaker") ⟨"breaker", some (.texts "breaker" ["b"])⟩ "usb/continuous" 7 .broke
            troubledFiles] ∧
      (troubledRig.commit
        { Instruments.equipment with persist := fun r d _ dir index t => (healedOutcome r d dir index, t) }
        "usb/continuous" 7 true).2.instruments = g'.instruments := by
  have checked : checkDirectory troubledRig.files "usb/continuous" = .ok () := toOption_eq_some.mp (by decide +kernel)
  have synced : (troubledRig.commit Instruments.equipment "usb/continuous" 7 true).2.sync Instruments.equipment
      "usb/continuous" = .ok () := toOption_eq_some.mp (by decide +kernel)
  obtain ⟨frozen, left, lefts, report, g', _, freezing, run, instruments, writing, calls, _, files, failed, stats,
    isolated⟩ := commit_isolates_failures Instruments.equipment (checkDirectory_eq_ok.mp checked)
      troubledRig_independent synced
  obtain ⟨rfl, rfl⟩ :=
    (freezing_freezeEach Instruments.equipment troubledRig.registry.dumpables troubledRig).unique freezing
  have dumps : laden Instruments.equipment.size
      (freezeEach Instruments.equipment troubledRig.registry.dumpables troubledRig).1 = _ := troubledRig_gatheredDumps
  rw [dumps] at files failed writing
  have lost : report.failed = ["burner", "breaker"] := failed.trans (by decide +kernel)
  rw [instruments] at writing
  obtain ⟨rfl, left⟩ := troubledRig_writing.unique writing
  refine ⟨report, g', run, files.trans (by decide +kernel), lost, ?_, left, calls.trans (by decide +kernel), ?_⟩
  · rw [stats, lost]
    rfl
  · refine (isolated _ healedOutcome (fun _ _ _ _ => rfl) ?_).1
    intro f member kept
    rw [dumps] at member
    simp only [List.mem_cons, List.not_mem_nil, or_false] at member
    rcases member with rfl | rfl | rfl
    · cases kept
    · rfl
    · cases kept

end Rig

end CaptureRig
