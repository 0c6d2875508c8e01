import CaptureRig.Journal.Session
import Mathlib.Data.List.Infix

namespace CaptureRig.Journal

/-- The files after a request has been carried out, whether or not it could be. -/
def carry (root : String) (t : Storage.Tree) (r : SaveRequest) : Storage.Tree :=
  (writeJson (Path.join root r.path) r.value t).2

/-- What is not to be a JSON file is not written at all. -/
theorem carry_unsupported {root : String} {r : SaveRequest} (other : Path.extension? (Path.join root r.path) ≠ some "json")
    (t : Storage.Tree) : carry root t r = t := by
  rw [carry, writeJson, if_pos other]

namespace Saver

/-- The request that the thread takes with its next step. -/
def next? (s : Saver) : Option SaveRequest :=
  match s.thread with
  | .listening => s.queue.head?
  | .idle | .ended => none

/-- Whether the thread has found nothing to take, while something has come since. -/
def Overlooks (s : Saver) : Prop := s.thread = .idle ∧ s.queue ≠ []

/-- The same with other requests. -/
def map (f : SaveRequest → SaveRequest) (s : Saver) : Saver :=
  { s with queue := s.queue.map f, taken := s.taken.map f }

end Saver

/-- What goes on while values are saved. -/
inductive SaveAct where
  | send (r : SaveRequest)
  /-- An exit asks the thread to stop. -/
  | raise
  /-- The thread makes its next step. -/
  | step

namespace SaveAct

def request? : SaveAct → Option SaveRequest
  | .send r => some r
  | .raise | .step => none

def map (f : SaveRequest → SaveRequest) : SaveAct → SaveAct
  | .send r => .send (f r)
  | .raise => .raise
  | .step => .step

end SaveAct

/-- The requests that are sent, in order. -/
def requests (acts : List SaveAct) : List SaveRequest := acts.filterMap SaveAct.request?

/-- The saver with the files that it writes. -/
structure Saving where
  saver : Saver := {}
  files : Storage.Tree

namespace Saving

/-- Nothing can be sent to a thread that has ended. A request is carried out as it is taken. -/
def act (root : String) (s : Saving) : SaveAct → Saving
  | .send r => if s.saver.thread = .ended then s else { s with saver := s.saver.send r }
  | .raise => { s with saver := s.saver.raise }
  | .step => ⟨s.saver.step?.getD s.saver, s.saver.next?.elim s.files (carry root s.files)⟩

def run (root : String) (s : Saving) (acts : List SaveAct) : Saving := acts.foldl (act root) s

/-- What an act comes to. -/
inductive Changed (root : String) (s : Saving) : SaveAct → Saving → Prop
  | sent {r : SaveRequest} (running : s.saver.thread ≠ .ended) :
      Changed root s (.send r) { s with saver := { s.saver with queue := s.saver.queue ++ [r] } }
  | refused {r : SaveRequest} (ended : s.saver.thread = .ended) : Changed root s (.send r) s
  | raised : Changed root s .raise { s with saver := { s.saver with stop := true } }
  | took {r : SaveRequest} {rest : List SaveRequest} (listening : s.saver.thread = .listening)
      (waiting : s.saver.queue = r :: rest) :
      Changed root s .step ⟨{ s.saver with queue := rest, taken := s.saver.taken ++ [r] }, carry root s.files r⟩
  | found (listening : s.saver.thread = .listening) (empty : s.saver.queue = []) :
      Changed root s .step { s with saver := { s.saver with thread := .idle } }
  | resumed (idle : s.saver.thread = .idle) (wanted : s.saver.stop = false) :
      Changed root s .step { s with saver := { s.saver with thread := .listening } }
  | stopped (idle : s.saver.thread = .idle) (unwanted : s.saver.stop = true) :
      Changed root s .step { s with saver := { s.saver with thread := .ended } }
  | finished (ended : s.saver.thread = .ended) : Changed root s .step s

variable {root : String}

theorem changed_act (s : Saving) (k : SaveAct) : Changed root s k (s.act root k) := by
  cases k with
  | send r =>
    by_cases ended : s.saver.thread = .ended
    · rw [act, if_pos ended]
      exact .refused ended
    · rw [act, if_neg ended]
      exact .sent ended
  | raise => exact .raised
  | step =>
    obtain ⟨⟨queue, stop, thread, taken⟩, files⟩ := s
    cases thread with
    | listening =>
      cases queue with
      | nil => exact .found rfl rfl
      | cons r rest => exact .took rfl rfl
    | idle =>
      cases stop with
      | false => exact .resumed rfl rfl
      | true => exact .stopped rfl rfl
    | ended => exact .finished rfl

/-- What holds from the exit on of the requests that are to be taken before the thread ends. -/
structure Closing (pending : List SaveRequest) (s : Saver) : Prop where
  stop : s.stop = true
  waiting : pending <+: s.taken ++ s.queue
  found : s.thread ≠ .listening → pending <+: s.taken

/-- What holds from the exit on if the thread is not to take anything more. -/
structure Ending (taken : List SaveRequest) (s : Saver) : Prop where
  stop : s.stop = true
  thread : s.thread ≠ .listening
  taken : s.taken = taken

section Step

variable {s s' : Saving} {k : SaveAct} (changed : Changed root s k s')

include changed

/-- What is sent is taken or waits, in order, and nothing else does. -/
theorem Changed.flow :
    s'.saver.taken ++ s'.saver.queue =
      s.saver.taken ++ s.saver.queue ++ if s.saver.thread = .ended then [] else k.request?.toList := by
  cases changed with
  | sent running =>
    rw [if_neg running, List.append_assoc]
    rfl
  | refused ended | finished ended => rw [if_pos ended, List.append_nil]
  | took listening waiting =>
    rw [waiting, List.append_assoc]
    simp [SaveAct.request?]
  | raised | found | resumed | stopped => simp [SaveAct.request?]

theorem Changed.ended (ended : s.saver.thread = .ended) :
    s'.saver.thread = .ended ∧ s'.saver.taken = s.saver.taken := by
  cases changed with
  | sent running => exact absurd ended running
  | refused | raised | finished => exact ⟨ended, rfl⟩
  | took listening | found listening => cases ended.symm.trans listening
  | resumed idle | stopped idle => cases ended.symm.trans idle

theorem Changed.files {t : Storage.Tree} (carried : s.files = s.saver.taken.foldl (carry root) t) :
    s'.files = s'.saver.taken.foldl (carry root) t := by
  cases changed with
  | took => rw [List.foldl_append, ← carried, List.foldl_cons, List.foldl_nil]
  | sent | refused | raised | found | resumed | stopped | finished => exact carried

/-- The thread does not end before it is asked to stop. -/
theorem Changed.running (other : k ≠ .raise) (wanted : s.saver.stop = false) (running : s.saver.thread ≠ .ended) :
    s'.saver.stop = false ∧ s'.saver.thread ≠ .ended := by
  cases changed with
  | sent | refused | finished => exact ⟨wanted, running⟩
  | raised => exact absurd rfl other
  | took listening => exact ⟨wanted, running⟩
  | found | resumed => exact ⟨wanted, SaverThread.noConfusion⟩
  | stopped _ unwanted => cases wanted.symm.trans unwanted

theorem Changed.closing {pending : List SaveRequest} (closing : Closing pending s.saver) : Closing pending s'.saver := by
  have waiting : pending <+: s'.saver.taken ++ s'.saver.queue := by
    rw [changed.flow]
    exact closing.waiting.trans (List.prefix_append _ _)
  cases changed with
  | sent | refused | finished => exact ⟨closing.stop, waiting, closing.found⟩
  | raised => exact ⟨rfl, waiting, closing.found⟩
  | took listening => exact ⟨closing.stop, waiting, fun other => absurd listening other⟩
  | found _ empty =>
    refine ⟨closing.stop, waiting, fun _ => ?_⟩
    rwa [empty, List.append_nil] at waiting
  | resumed _ wanted => cases wanted.symm.trans closing.stop
  | stopped idle =>
    refine ⟨closing.stop, waiting, fun _ => closing.found ?_⟩
    rw [idle]
    exact SaverThread.noConfusion

theorem Changed.ending {taken : List SaveRequest} (ending : Ending taken s.saver) : Ending taken s'.saver := by
  cases changed with
  | sent | refused | finished => exact ⟨ending.stop, ending.thread, ending.taken⟩
  | raised => exact ⟨rfl, ending.thread, ending.taken⟩
  | took listening | found listening => exact absurd listening ending.thread
  | resumed _ wanted => cases wanted.symm.trans ending.stop
  | stopped => exact ⟨ending.stop, SaverThread.noConfusion, ending.taken⟩

end Step

section Run

variable {s : Saving}

theorem run_cons (s : Saving) (k : SaveAct) (acts : List SaveAct) : run root s (k :: acts) = run root (s.act root k) acts :=
  rfl

theorem run_append (s : Saving) (before after : List SaveAct) :
    run root s (before ++ after) = run root (run root s before) after :=
  List.foldl_append

/-- What every act preserves holds after a run. -/
theorem run_induction {P : Saving → Prop} {acts : List SaveAct}
    (step : ∀ s k s', k ∈ acts → Changed root s k s' → P s → P s') (start : P s) : P (run root s acts) := by
  induction acts generalizing s with
  | nil => exact start
  | cons k acts ih =>
    refine ih (fun s k s' member => step s k s' (List.mem_cons_of_mem _ member)) ?_
    exact step s k _ List.mem_cons_self (changed_act s k) start

theorem requests_cons (k : SaveAct) (acts : List SaveAct) : requests (k :: acts) = k.request?.toList ++ requests acts := by
  cases k <;> rfl

/-- Once the thread has ended, nothing more is taken. -/
theorem ended_run (acts : List SaveAct) (ended : s.saver.thread = .ended) :
    (run root s acts).saver.thread = .ended ∧ (run root s acts).saver.taken = s.saver.taken := by
  refine run_induction (P := fun s' => s'.saver.thread = .ended ∧ s'.saver.taken = s.saver.taken) ?_ ⟨ended, rfl⟩
  intro _ _ _ _ changed ⟨done, same⟩
  obtain ⟨ended, taken⟩ := changed.ended done
  exact ⟨ended, taken.trans same⟩

/-- While the thread has not ended, all that has been sent is taken or waits. -/
theorem flow_run {acts : List SaveAct} (running : (run root s acts).saver.thread ≠ .ended) :
    (run root s acts).saver.taken ++ (run root s acts).saver.queue =
      s.saver.taken ++ s.saver.queue ++ requests acts := by
  induction acts generalizing s with
  | nil => exact (List.append_nil _).symm
  | cons k acts ih =>
    have open' : s.saver.thread ≠ .ended := fun ended => running (ended_run (k :: acts) ended).1
    rw [run_cons] at running ⊢
    rw [ih running, (changed_act s k).flow, if_neg open', requests_cons, List.append_assoc]

/-- Requests are taken in the order in which they are sent, and each of them once. -/
theorem taken_in_order (acts : List SaveAct) :
    (run root s acts).saver.taken <+: s.saver.taken ++ s.saver.queue ++ requests acts := by
  induction acts generalizing s with
  | nil => exact (List.prefix_append _ _).trans (List.prefix_append _ _)
  | cons k acts ih =>
    by_cases ended : s.saver.thread = .ended
    · rw [(ended_run (k :: acts) ended).2, List.append_assoc]
      exact List.prefix_append _ _
    · have later := ih (s := s.act root k)
      rwa [(changed_act s k).flow, if_neg ended, List.append_assoc, ← requests_cons] at later

/-- What is written is what has been taken. -/
theorem files_run (t : Storage.Tree) (acts : List SaveAct) :
    (run root ⟨{}, t⟩ acts).files = (run root ⟨{}, t⟩ acts).saver.taken.foldl (carry root) t := by
  refine run_induction (P := fun s => s.files = s.saver.taken.foldl (carry root) t) ?_ rfl
  exact fun _ _ _ _ changed carried => changed.files carried

/-- The thread is not led by what the requests are or what becomes of them. -/
theorem saver_run_map (f : SaveRequest → SaveRequest) (root' : String) {s' : Saving} (same : s'.saver = s.saver.map f)
    (acts : List SaveAct) : (run root' s' (acts.map (·.map f))).saver = (run root s acts).saver.map f := by
  induction acts generalizing s s' with
  | nil => exact same
  | cons k acts ih =>
    refine ih ?_
    obtain ⟨⟨queue, stop, thread, taken⟩, files⟩ := s
    obtain ⟨_, files'⟩ := s'
    subst same
    cases k with
    | send r =>
      by_cases ended : thread = .ended
      · simp [act, SaveAct.map, Saver.map, ended]
      · simp [act, SaveAct.map, Saver.map, Saver.send, ended]
    | raise => rfl
    | step =>
      cases thread with
      | listening =>
        cases queue with
        | nil => rfl
        | cons r rest => simp [act, SaveAct.map, Saver.map, Saver.step?]
      | idle => rfl
      | ended => rfl

end Run

theorem Closing.raise {s : Saver} (running : s.thread ≠ .ended) (caught : ¬s.Overlooks) :
    Closing (s.taken ++ s.queue) s.raise where
  stop := rfl
  waiting := List.prefix_refl _
  found := by
    intro other
    -- The thread is about to look at the flag, and nothing has come since it looked for requests.
    have idle : s.thread = .idle := by
      cases here : s.thread with
      | listening => exact absurd here other
      | idle => rfl
      | ended => exact absurd here running
    have empty : s.queue = [] := by
      by_contra some
      exact caught ⟨idle, some⟩
    rw [empty, List.append_nil]
    exact List.prefix_refl _

theorem Ending.raise {s : Saver} (overlooked : s.Overlooks) : Ending s.taken s.raise where
  stop := rfl
  thread := by
    intro listening
    cases listening.symm.trans overlooked.1
  taken := rfl

/-- Requests come, the thread makes its steps and an exit waits for its end, in any order. Then the requests taken are
carried out in the order in which they were sent, each once, and what they are or whether they can be carried out has no
part in which are taken. All that had been sent before the exit is among them, unless the thread has found nothing to take
by then and something has come since. In that case nothing more is taken, and what waits at the exit is lost. -/
theorem saved_unless_overlooked (root : String) (t : Storage.Tree) (before later : List SaveAct)
    (running : .raise ∉ before) (ended : (run root ⟨{}, t⟩ (before ++ .raise :: later)).saver.thread = .ended) :
    let s := (run root ⟨{}, t⟩ before).saver
    let e := run root ⟨{}, t⟩ (before ++ .raise :: later)
    e.saver.taken <+: requests (before ++ .raise :: later) ∧
      e.files = e.saver.taken.foldl (carry root) t ∧
      requests before = s.taken ++ s.queue ∧
      (requests before <+: e.saver.taken ↔ ¬s.Overlooks) ∧ (s.Overlooks → e.saver.taken = s.taken) ∧
      ∀ f root' t',
        (run root' ⟨{}, t'⟩ ((before ++ .raise :: later).map (·.map f))).saver = e.saver.map f := by
  intro s e
  have early : s.stop = false ∧ s.thread ≠ .ended := by
    refine run_induction (P := fun s => s.saver.stop = false ∧ s.saver.thread ≠ .ended) ?_ ⟨rfl, SaverThread.noConfusion⟩
    rintro _ k _ member changed ⟨wanted, running'⟩
    exact changed.running (fun raise => running (raise ▸ member)) wanted running'
  have sent : requests before = s.taken ++ s.queue := (flow_run early.2).symm
  have whole : e = run root ((run root ⟨{}, t⟩ before).act root .raise) later := run_append ..
  have kept (caught : ¬s.Overlooks) : requests before <+: e.saver.taken := by
    have closing : Closing (s.taken ++ s.queue) e.saver := by
      rw [whole]
      refine run_induction (P := fun s' => Closing (s.taken ++ s.queue) s'.saver) ?_ (Closing.raise early.2 caught)
      exact fun _ _ _ _ changed closing => changed.closing closing
    rw [sent]
    refine closing.found ?_
    rw [ended]
    exact SaverThread.noConfusion
  have lost (overlooked : s.Overlooks) : e.saver.taken = s.taken := by
    have ending : Ending s.taken e.saver := by
      rw [whole]
      refine run_induction (P := fun s' => Ending s.taken s'.saver) ?_ (Ending.raise overlooked)
      exact fun _ _ _ _ changed ending => changed.ending ending
    exact ending.taken
  refine ⟨taken_in_order (s := ⟨{}, t⟩) _, files_run t _, sent, ⟨fun all overlooked => ?_, kept⟩, lost, ?_⟩
  · have short := all.length_le
    have waiting := List.length_pos_iff.mpr overlooked.2
    rw [sent, lost overlooked, List.length_append] at short
    omega
  · exact fun f root' t' => saver_run_map f root' rfl _

/-- A request to save a word. -/
def greeting : SaveRequest := ⟨"a.json", .text "hello"⟩

/-- A directory for a session. -/
def sessionRoot : Storage.Tree := { entries := [(["run"], .directory)] }

theorem saved_unless_overlooked_greeting :
    let before : List SaveAct := [.step, .step, .send greeting]
    let later : List SaveAct := [.step, .step, .step]
    let e := run "run" ⟨{}, sessionRoot⟩ (before ++ .raise :: later)
    .raise ∉ before ∧ e.saver.thread = .ended ∧ ¬(run "run" ⟨{}, sessionRoot⟩ before).saver.Overlooks ∧
      [greeting] <+: e.saver.taken ∧ e.files = e.saver.taken.foldl (carry "run") sessionRoot ∧
      e.files.readText "run/a.json" = .ok "\x22hello\x22" := by
  intro before later e
  have running : .raise ∉ before := by simp [before]
  obtain ⟨_, written, _, kept, _⟩ := saved_unless_overlooked "run" sessionRoot before later running rfl
  have caught : ¬(run "run" ⟨{}, sessionRoot⟩ before).saver.Overlooks := fun overlooked => nomatch overlooked.1
  exact ⟨running, rfl, caught, kept.mpr caught, written, by decide +kernel⟩

/-- A request that comes after the thread has found nothing to take, and before it looks at the flag, is not taken if there
is an exit in between as well. Nothing is written of it. -/
theorem greeting_overlooked :
    let before : List SaveAct := [.step, .send greeting]
    let e := run "run" ⟨{}, sessionRoot⟩ (before ++ [.raise, .step])
    .raise ∉ before ∧ e.saver.thread = .ended ∧ requests before = [greeting] ∧ e.saver.taken = [] ∧
      ¬requests before <+: e.saver.taken ∧ e.files.readText "run/a.json" = .error .notFound := by
  intro before e
  have running : .raise ∉ before := by simp [before]
  have sent : requests before = [greeting] := rfl
  have none : e.saver.taken = [] := rfl
  have missed : ¬requests before <+: e.saver.taken := by
    rw [sent, none, List.prefix_nil]
    exact List.cons_ne_nil _ _
  exact ⟨running, rfl, sent, none, missed, by decide +kernel⟩

end Saving

namespace Saver

theorem run_ended {s : Saver} (ended : s.thread = .ended) (steps : Nat) : s.run steps = s := by
  cases steps with
  | zero => rfl
  | succ steps => simp [run, step?, ended]

/-- A thread that listens takes all that waits and ends, once it has been asked to stop. -/
theorem run_drain (queue taken : List SaveRequest) :
    run (queue.length + 4) ⟨queue, true, .listening, taken⟩ = ⟨[], true, .ended, taken ++ queue⟩ := by
  induction queue generalizing taken with
  | nil =>
    rw [List.append_nil]
    rfl
  | cons r queue ih =>
    have next : step? ⟨r :: queue, true, .listening, taken⟩ = some ⟨queue, true, .listening, taken ++ [r]⟩ := rfl
    have steps : (r :: queue).length + 4 = (queue.length + 4) + 1 := by simp
    rw [steps, run, next]
    dsimp only
    rw [ih, List.append_assoc]
    rfl

/-- The thread always ends if nothing more comes. -/
theorem finish_raise (s : Saver) : s.raise.finish.thread = .ended := by
  obtain ⟨queue, stop, thread, taken⟩ := s
  cases thread with
  | listening => exact congrArg Saver.thread (run_drain queue taken)
  | idle => exact congrArg Saver.thread (run_ended (s := ⟨queue, true, .ended, taken⟩) rfl (queue.length + 3))
  | ended => exact congrArg Saver.thread (run_ended (s := ⟨queue, true, .ended, taken⟩) rfl (queue.length + 4))

end Saver

namespace Run

/-- A run in which values are saved, one after another. -/
theorem saver_saves {j : Run} {saver : Saver} (open' : j.saver = some saver) (running : saver.thread ≠ .ended)
    (rs : List SaveRequest) :
    rs.foldl (fun j r => j.save r) j = { j with saver := some { saver with queue := saver.queue ++ rs } } := by
  induction rs generalizing j saver with
  | nil => rw [List.foldl_nil, List.append_nil, ← open']
  | cons r rs ih =>
    have saved : j.save r = { j with saver := some (saver.send r) } := by
      rw [save, open']
      exact if_neg running
    rw [List.foldl_cons, saved, ih (j := { j with saver := some (saver.send r) }) rfl running, Saver.send, List.append_assoc]
    rfl

theorem log_quiet {j : Run} (quiet : j.logger = none) (r : Record) : j.log r = j := by
  rw [log, quiet]

theorem carryOut_quiet {j : Run} (quiet : j.logger = none) (root : String) (r : SaveRequest) :
    j.carryOut root r = { j with files := carry root j.files r } := by
  delta carryOut carry
  dsimp only
  split
  · rfl
  · exact log_quiet (j := { j with files := (writeJson (Path.join root r.path) r.value j.files).2 }) quiet _

theorem carryOut_quiet_all {j : Run} (quiet : j.logger = none) (root : String) (rs : List SaveRequest) :
    rs.foldl (fun j r => j.carryOut root r) j = { j with files := rs.foldl (carry root) j.files } := by
  induction rs generalizing j with
  | nil => rfl
  | cons r rs ih =>
    have later := ih (j := { j with files := carry root j.files r }) quiet
    rw [List.foldl_cons, carryOut_quiet quiet, later]
    rfl

/-- If nothing else is going on, a session ends with all its values saved. -/
theorem exit_saves {j : Run} {s : Session} (begun : j.session = some s) (fresh : j.saver = some {})
    (quiet : j.logger = none) (rs : List SaveRequest) :
    (rs.foldl (fun j r => j.save r) j).exit.files = rs.foldl (carry s.root) j.files := by
  have saved := saver_saves fresh SaverThread.noConfusion rs
  rw [List.nil_append] at saved
  have drained : Saver.finish (Saver.raise { queue := rs }) = ⟨[], true, .ended, rs⟩ := Saver.run_drain rs []
  have settled : settle s.root { j with saver := some { queue := rs } } =
      { j with saver := some ⟨[], true, .ended, rs⟩, files := rs.foldl (carry s.root) j.files } := by
    rw [settle]
    dsimp only
    rw [drained]
    exact carryOut_quiet_all (j := { j with saver := some ⟨[], true, .ended, rs⟩ }) quiet s.root rs
  have told (text : String) : info sessionTarget text { j with saver := some { queue := rs } } =
      { j with saver := some { queue := rs } } := log_quiet (j := { j with saver := some { queue := rs } }) quiet _
  rw [saved, exit]
  dsimp only
  rw [begun]
  dsimp only
  rw [← begun, told, settled, info, log_quiet]
  exact quiet

end Run

end CaptureRig.Journal
