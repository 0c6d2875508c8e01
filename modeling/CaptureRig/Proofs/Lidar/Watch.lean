import CaptureRig.Proofs.Lidar.Enrolment
import CaptureRig.Proofs.Record.Intake

namespace CaptureRig.Lidar

/-- What is done with a client. -/
inductive Act where
  /-- The number of a scanner is looked up. -/
  | number (serial : String)
  | packet (now : UInt64) (p : Packet)
  | datagram (now : UInt64) (bytes : List UInt8)
  | opened
  | start
  | stop
  | freeze

/-- Records, each with the serial of the packet that it came in. -/
structure Origins where
  points : List (String × Point) := []
  motion : List (String × Motion) := []

namespace Origins

/-- The serial and the number of every record. -/
def labels (o : Origins) : List (String × UInt16) :=
  o.points.map (fun (serial, x) => (serial, x.lidar)) ++ o.motion.map fun (serial, m) => (serial, m.lidar)

def add (o : Origins) (serial : String) (points : List Point) (motion : List Motion) : Origins :=
  { points := o.points ++ points.map (serial, ·), motion := o.motion ++ motion.map (serial, ·) }

theorem mem_labels_add {o : Origins} {serial : String} {points : List Point} {motion : List Motion}
    {label : String × UInt16} (member : label ∈ (o.add serial points motion).labels) :
    label ∈ o.labels ∨ label.1 = serial ∧ ((∃ x ∈ points, x.lidar = label.2) ∨ ∃ m ∈ motion, m.lidar = label.2) := by
  simp only [labels, add, List.map_append, List.map_map, List.mem_append, List.mem_map, Function.comp_apply] at member ⊢
  rcases member with (old | ⟨x, here, rfl⟩) | (old | ⟨m, here, rfl⟩)
  · exact Or.inl (Or.inl old)
  · exact Or.inr ⟨rfl, Or.inl ⟨x, here, rfl⟩⟩
  · exact Or.inl (Or.inr old)
  · exact Or.inr ⟨rfl, Or.inr ⟨m, here, rfl⟩⟩

end Origins

namespace Client

section Ingest

variable {p : Packet} {c : Client} (now : UInt64) (a : Clock.Authority)

theorem ingest_of_none (missing : (c.scannerId p.serial).1 = none) :
    c.ingest now p a = ({ c with rejected := c.rejected + 1 }, a) := by
  have same := scannerId_of_none missing
  unfold ingest
  generalize c.scannerId p.serial = answer at missing same
  obtain ⟨_, c'⟩ := answer
  subst missing same
  rfl

/-- A packet whose scanner has a number is counted. If it has a time, that goes to the authority and the samples are kept
while logging. -/
theorem ingest_of_some {id : UInt16} (given : (c.scannerId p.serial).1 = some id) :
    c.ingest now p a =
      if p.timestamp = 0 then ((c.scannerId p.serial).2.countPacket p, a)
      else (if ((c.scannerId p.serial).2.countPacket p).logging then
          ((c.scannerId p.serial).2.countPacket p).keep p (a.correctAt p.timestamp now).1 id
        else (c.scannerId p.serial).2.countPacket p, (a.correctAt p.timestamp now).2) := by
  unfold ingest
  generalize c.scannerId p.serial = answer at given
  obtain ⟨_, c'⟩ := answer
  subst given
  rfl

end Ingest

theorem keep_scanners (c : Client) (p : Packet) (base : UInt64) (id : UInt16) :
    (c.keep p base id).scanners = c.scanners := by
  unfold keep
  split <;> rfl

/-- What a packet does to the scanners does not depend on the time, nor on what is logged. -/
theorem ingest_scanners (now : UInt64) (p : Packet) (c : Client) (a : Clock.Authority) :
    (c.ingest now p a).1.scanners = ((c.scannerId p.serial).2.countPacket p).scanners := by
  cases answer : (c.scannerId p.serial).1 with
  | none =>
    have same := scannerId_of_none answer
    rw [ingest_of_none now a answer]
    rw [scannerId_fst, same] at answer
    have unknown : c.scanners.find? p.serial = none := Option.map_eq_none_iff.mp answer
    rw [same, countPacket, unknown]
  | some id =>
    rw [ingest_of_some now a answer]
    split
    · rfl
    · dsimp only
      split
      · rw [keep_scanners]
      · rfl

theorem Numbered.of_scanners {c c' : Client} (numbered : c.Numbered) (same : c'.scanners = c.scanners) :
    c'.Numbered := by
  obtain ⟨ascending, dense, limited⟩ := numbered
  exact ⟨same ▸ ascending, same ▸ dense, same ▸ limited⟩

theorem Numbered.ingest {c : Client} (numbered : c.Numbered) (now : UInt64) (p : Packet) (a : Clock.Authority) :
    (c.ingest now p a).1.Numbered :=
  ((numbered.scannerId p.serial).countPacket p).of_scanners (c.ingest_scanners now p a)

/-- The number that a packet is given is then that of its scanner. -/
theorem numberOf?_ingest (now : UInt64) (p : Packet) (c : Client) (a : Clock.Authority) :
    (c.ingest now p a).1.numberOf? p.serial = (c.scannerId p.serial).1 := by
  rw [numberOf?, ingest_scanners, ← numberOf?, numberOf?_countPacket, scannerId_fst]

theorem numberOf?_kept_ingest {c : Client} {serial : String} {id : UInt16} (known : c.numberOf? serial = some id)
    (now : UInt64) (p : Packet) (a : Clock.Authority) : (c.ingest now p a).1.numberOf? serial = some id := by
  rw [numberOf?, ingest_scanners, ← numberOf?, numberOf?_countPacket]
  exact numberOf?_kept_scannerId known

section Brought

variable {now : UInt64} {p : Packet} {c : Client} {a : Clock.Authority}

theorem given_of_stampOf? {base : UInt64} {id : UInt16} (stamp : c.stampOf? now p a = some (base, id)) :
    (c.scannerId p.serial).1 = some id := by
  unfold stampOf? at stamp
  split at stamp
  · cases stamp
  · rename_i given
    split at stamp
    · cases stamp
    · rw [given, (Prod.mk.inj (Option.some.inj stamp)).2]

/-- Whatever a packet brings has the number that the packet is given. -/
theorem given_of_mem_pointsOf {x : Point} (member : x ∈ c.pointsOf now p a) :
    (c.scannerId p.serial).1 = some x.lidar := by
  unfold pointsOf at member
  split at member
  · rename_i stamp _
    obtain ⟨_, _, rfl⟩ := List.mem_map.mp member
    exact given_of_stampOf? stamp
  · cases member

theorem given_of_mem_motionOf {m : Motion} (member : m ∈ c.motionOf now p a) :
    (c.scannerId p.serial).1 = some m.lidar := by
  unfold motionOf at member
  split at member
  · rename_i stamp _
    obtain ⟨_, _, rfl⟩ := List.mem_map.mp member
    exact given_of_stampOf? stamp
  · cases member

end Brought

end Client

/-- A client over a run: what it keeps and what it has handed over, each with its origins. -/
structure Watch where
  client : Client
  authority : Clock.Authority
  origins : Origins := {}
  dumps : List (Chunk.Dump × Origins) := []

namespace Watch

/-- The origins of what is kept once a packet is taken, if there is one. -/
def originsAfter (w : Watch) (now : UInt64) : Option Packet → Origins
  | none => w.origins
  | some p =>
    if w.client.logging then
      w.origins.add p.serial (w.client.pointsOf now p w.authority) (w.client.motionOf now p w.authority)
    else w.origins

def act (w : Watch) : Act → Watch
  | .number serial => { w with client := (w.client.scannerId serial).2 }
  | .packet now p =>
    let (client, authority) := w.client.ingest now p w.authority
    { w with client, authority, origins := w.originsAfter now (some p) }
  | .datagram now bytes =>
    let (client, authority) := w.client.receive now bytes w.authority
    { w with client, authority, origins := w.originsAfter now (Packet.decode bytes).toOption }
  | .opened => { w with client := w.client.opened }
  | .start => { w with client := w.client.start, origins := if w.client.logging then w.origins else {} }
  | .stop => { w with client := w.client.stop }
  | .freeze =>
    let (dump, client) := w.client.freeze
    { w with client, origins := {}, dumps := w.dumps ++ [(dump, w.origins)] }

def run (w : Watch) (acts : List Act) : Watch := acts.foldl act w

def fresh (serials : List String) (authority : Clock.Authority) : Watch := { client := .new serials, authority }

section Datagram

variable (w : Watch) (now : UInt64) {bytes : List UInt8}

theorem act_datagram_of_ok {p : Packet} (decoded : Packet.decode bytes = .ok p) :
    w.act (.datagram now bytes) = w.act (.packet now p) := by
  simp only [act, Client.receive, decoded, Except.toOption]

theorem act_datagram_of_error {e : DecodeError} (failed : Packet.decode bytes = .error e) :
    w.act (.datagram now bytes) = { w with client := { w.client with decodeErrors := w.client.decodeErrors + 1 } } := by
  simp only [act, Client.receive, failed, Except.toOption, originsAfter]

end Datagram

/-- The number of a scanner stays whatever is done. -/
theorem numberOf?_kept_act {w : Watch} {serial : String} {id : UInt16}
    (known : w.client.numberOf? serial = some id) (k : Act) : (w.act k).client.numberOf? serial = some id := by
  cases k with
  | number => exact Client.numberOf?_kept_scannerId known
  | packet => exact Client.numberOf?_kept_ingest known ..
  | datagram now bytes =>
    cases decoded : Packet.decode bytes with
    | ok p =>
      rw [act_datagram_of_ok w now decoded]
      exact Client.numberOf?_kept_ingest known ..
    | error =>
      rw [act_datagram_of_error w now decoded]
      exact known
  | start =>
    unfold act Client.start
    dsimp only
    split <;> exact known
  | opened => exact known
  | stop => exact known
  | freeze => exact known

theorem numberOf?_kept_run {w : Watch} {serial : String} {id : UInt16}
    (known : w.client.numberOf? serial = some id) (acts : List Act) :
    (w.run acts).client.numberOf? serial = some id := by
  induction acts generalizing w with
  | nil => exact known
  | cons k acts ih => exact ih (numberOf?_kept_act known k)

/-- A dump is made of the records, and the number of each of them stands once in its table, with the serial of the packet
that the record came in. -/
def Attributed (dump : Chunk.Dump) (o : Origins) : Prop :=
  ∃ serials, dump.payload = some (.scans (o.points.map (·.2)) (o.motion.map (·.2)) serials) ∧
    ∀ label ∈ o.labels, serials.filter (·.1 = label.2) = [(label.2, label.1)]

structure Faithful (w : Watch) : Prop where
  numbered : w.client.Numbered
  points : w.origins.points.map (·.2) = w.client.points
  motion : w.origins.motion.map (·.2) = w.client.motion
  known : ∀ label ∈ w.origins.labels, w.client.numberOf? label.1 = some label.2
  attributed : ∀ entry ∈ w.dumps, Attributed entry.1 entry.2

namespace Faithful

variable {w : Watch}

theorem fresh (serials : List String) (authority : Clock.Authority) : (fresh serials authority).Faithful where
  numbered := Client.new_numbered serials
  points := rfl
  motion := rfl
  known _ member := by cases member
  attributed _ member := by cases member

/-- What leaves the records alone and keeps all numbers keeps the rest. -/
theorem of_client (faithful : w.Faithful) {client : Client} (numbered : client.Numbered)
    (same : client.kept.2 = w.client.kept.2)
    (lasting : ∀ {serial id}, w.client.numberOf? serial = some id → client.numberOf? serial = some id) :
    ({ w with client } : Watch).Faithful where
  numbered
  points := faithful.points.trans (congrArg (·.1) same).symm
  motion := faithful.motion.trans (congrArg (·.2) same).symm
  known label member := lasting (faithful.known label member)
  attributed := faithful.attributed

theorem packet (faithful : w.Faithful) (now : UInt64) (p : Packet) : (w.act (.packet now p)).Faithful := by
  have kept := w.client.ingest_kept now p w.authority
  obtain ⟨_, points, motion⟩ := by simpa only [Client.kept, Prod.mk.injEq] using kept
  refine ⟨faithful.numbered.ingest now p _, ?_, ?_, fun label member => ?_, faithful.attributed⟩
  · simp only [act, originsAfter, points]
    split
    · simp [Origins.add, faithful.points]
    · simp [faithful.points]
  · simp only [act, originsAfter, motion]
    split
    · simp [Origins.add, faithful.motion]
    · simp [faithful.motion]
  · -- What was there keeps its number, and what the packet brings has the number that its scanner has from now on.
    have old : label ∈ w.origins.labels → (w.act (.packet now p)).client.numberOf? label.1 = some label.2 :=
      fun member => numberOf?_kept_act (faithful.known label member) _
    simp only [act, originsAfter] at member
    split at member
    · rcases Origins.mem_labels_add member with earlier | ⟨here, brought⟩
      · exact old earlier
      · have given : (w.client.scannerId p.serial).1 = some label.2 := by
          rcases brought with ⟨x, inside, number⟩ | ⟨m, inside, number⟩
          · exact number ▸ Client.given_of_mem_pointsOf inside
          · exact number ▸ Client.given_of_mem_motionOf inside
        rw [here, ← given]
        exact Client.numberOf?_ingest now p w.client w.authority
    · exact old member

theorem freeze (faithful : w.Faithful) : (w.act .freeze).Faithful where
  numbered := faithful.numbered.of_scanners rfl
  points := rfl
  motion := rfl
  known _ member := by cases member
  attributed entry member := by
    rcases List.mem_append.mp member with earlier | last
    · exact faithful.attributed entry earlier
    · rw [List.mem_singleton.mp last]
      refine ⟨w.client.serials, ?_, fun label inside => faithful.numbered.filter_serials (faithful.known label inside)⟩
      simp only [faithful.points, faithful.motion]

theorem act (faithful : w.Faithful) (k : Act) : (w.act k).Faithful := by
  cases k with
  | number serial =>
    refine faithful.of_client (faithful.numbered.scannerId serial) ?_ Client.numberOf?_kept_scannerId
    exact congrArg (·.2) (w.client.scannerId_kept serial)
  | packet now p => exact faithful.packet now p
  | datagram now bytes =>
    cases decoded : Packet.decode bytes with
    | ok p => exact act_datagram_of_ok w now decoded ▸ faithful.packet now p
    | error =>
      rw [act_datagram_of_error w now decoded]
      exact faithful.of_client (faithful.numbered.of_scanners rfl) rfl id
  | opened => exact faithful.of_client (faithful.numbered.of_scanners rfl) rfl id
  | start =>
    simp only [Watch.act, Client.start]
    split
    · exact faithful
    · have none : ∀ label ∈ ({} : Origins).labels, w.client.numberOf? label.1 = some label.2 :=
        fun _ member => by cases member
      exact ⟨faithful.numbered.of_scanners rfl, rfl, rfl, none, faithful.attributed⟩
  | stop => exact faithful.of_client (faithful.numbered.of_scanners rfl) rfl id
  | freeze => exact faithful.freeze

theorem run (faithful : w.Faithful) (acts : List Act) : (w.run acts).Faithful := by
  induction acts generalizing w with
  | nil => exact faithful
  | cons k acts ih => exact ih (faithful.act k)

end Faithful

/-- After any run from the start the numbers of the scanners are those from zero on, at most sixteen, and for good: those
known in advance have theirs by rank, an answer to a look-up stays true whatever is done later, and only a scanner
without a number gets none, when there is none left. Every dump labels its records with the scanners they came from. -/
theorem numbers_stand (serials : List String) (authority : Clock.Authority) (acts : List Act) :
    let w := (fresh serials authority).run acts
    w.client.scanners.size ≤ 16 ∧ (w.client.scanners.entries.map (·.1)).Nodup ∧
    (w.client.scanners.entries.map (·.2.id.toNat)).Perm (List.range w.client.scanners.size) ∧
    (∀ serial ∈ serials, rank serials serial < 16 →
      w.client.numberOf? serial = some (UInt16.ofNat (rank serials serial))) ∧
    (∀ serial, (w.client.scannerId serial).1 = (w.client.scannerId serial).2.numberOf? serial) ∧
    (∀ serial id, w.client.numberOf? serial = some id →
      ∀ later, (w.run later).client.numberOf? serial = some id) ∧
    (∀ serial, (w.client.scannerId serial).1 = none ↔
      w.client.numberOf? serial = none ∧ w.client.scanners.size = 16) ∧
    (∀ serial, (w.client.scannerId serial).1 = none → (w.client.scannerId serial).2 = w.client) ∧
    ∀ entry ∈ w.dumps, Attributed entry.1 entry.2 := by
  intro w
  have faithful : w.Faithful := (Faithful.fresh serials authority).run acts
  have numbered := faithful.numbered
  refine ⟨numbered.limited, numbered.ascending.nodup, numbered.dense, fun serial member low => ?_,
    w.client.scannerId_fst, fun serial id known later => numberOf?_kept_run known later,
    fun serial => numbered.scannerId_eq_none, fun serial => Client.scannerId_of_none, faithful.attributed⟩
  exact numberOf?_kept_run (Client.numberOf?_new serials member low) acts

def crowdedSerials : List String := ["B", "A", "B"]

/-- One point, a little after its packet. -/
def onePoint (serial : String) : Packet :=
  { serial, timestamp := 40, payload := .points [{ x := 1, y := 2, z := 3, reflectivity := 4, tag := 5, offset := 6 }] }

/-- Two scanners are known in advance, another one sends a packet, thirteen are looked up, and there are no numbers left
for one more. -/
def crowd : List Act :=
  [.start, .packet 100 (onePoint "C")] ++
    ["0", "1", "2", "3", "4", "5", "6", "7", "8", "9", "X", "Y", "Z"].map Act.number ++
    [.packet 110 (onePoint "B"), .packet 120 (onePoint "late"), .freeze]

theorem numbers_stand_crowded :
    let w := (fresh crowdedSerials {}).run crowd
    ("A" ∈ crowdedSerials ∧ rank crowdedSerials "A" < 16 ∧ w.client.numberOf? "A" = some 0) ∧
    (w.client.numberOf? "C" = some 2 ∧ (w.run [.number "D", .start]).client.numberOf? "C" = some 2) ∧
    ((w.client.scannerId "late").1 = none ∧ (w.client.scannerId "late").2 = w.client) ∧
    ∃ entry ∈ w.dumps, entry.2.labels = [("C", 2), ("B", 1)] ∧ Attributed entry.1 entry.2 := by
  intro w
  have order : distinctSerials crowdedSerials = ["A", "B"] := by
    simp [crowdedSerials, distinctSerials, List.mergeSort, List.MergeSort.Internal.splitInTwo, List.eraseReps,
      List.eraseRepsBy, List.eraseRepsBy.loop]
  have start : fresh crowdedSerials {} =
      { client := { scanners := ⟨[("A", { id := 0 }), ("B", { id := 1 })]⟩ }, authority := {} } := by
    rw [fresh, Client.new, order]
    rfl
  have third : w.client.numberOf? "C" = some 2 := by
    simp only [w, start]
    decide +kernel
  have late : (w.client.scannerId "late").1 = none := by
    simp only [w, start]
    decide +kernel
  have handed : w.dumps.map (·.2.labels) = [[("C", 2), ("B", 1)]] := by
    simp only [w, start]
    decide +kernel
  obtain ⟨_, _, _, known, _, lasting, _, unchanged, attributed⟩ := numbers_stand crowdedSerials {} crowd
  obtain ⟨entry, inside, labels⟩ := List.mem_map.mp (handed ▸ List.mem_singleton_self _)
  have ranked : rank crowdedSerials "A" = 0 := by decide +kernel
  have member : "A" ∈ crowdedSerials := by decide
  have low : rank crowdedSerials "A" < 16 := by decide +kernel
  have first : w.client.numberOf? "A" = some 0 := by
    have given := known "A" member low
    rw [ranked] at given
    exact given
  exact ⟨⟨member, low, first⟩, ⟨third, lasting "C" 2 third _⟩, ⟨late, unchanged "late" late⟩,
    entry, inside, labels, attributed entry inside⟩

end Watch

end CaptureRig.Lidar
