import CaptureRig.Proofs.Lidar.Watch

namespace CaptureRig.Lidar

theorem toNat_laterBy (base : UInt64) (offset : UInt32) :
    (laterBy base offset).toNat = min (base.toNat + offset.toNat) (UInt64.size - 1) := by
  have low : min (base.toNat + offset.toNat) (UInt64.size - 1) < UInt64.size :=
    lt_of_le_of_lt (Nat.min_le_right ..) (by decide)
  exact UInt64.toNat_ofNat_of_lt' low

def Scanner.packets (s : Scanner) : Nat := s.pointPackets + s.motionPackets

theorem Scanner.packets_count (s : Scanner) (p : Packet) : (s.count p).packets = s.packets + 1 := by
  unfold count packets
  split <;> dsimp only <;> omega

namespace Client

/-- The packets counted for scanners. -/
def packets (c : Client) : Nat := (c.scanners.entries.map fun e => e.2.packets).sum

theorem packets_of_perm {c : Client} {entries : List (String × Scanner)} (same : c.scanners.entries.Perm entries) :
    c.packets = (entries.map fun e => e.2.packets).sum :=
  (same.map _).sum_nat

/-- All that has been counted. -/
def arrivals (c : Client) : Nat := c.decodeErrors + c.rejected + c.packets

theorem arrivals_new (serials : List String) : (new serials).arrivals = 0 := by
  have none : (new serials).packets = 0 := by
    rw [packets, entries_new, List.map_map, List.sum_eq_zero_iff]
    intro n member
    obtain ⟨_, _, rfl⟩ := List.mem_map.mp member
    rfl
  rw [arrivals, none]
  rfl

theorem packets_scannerId (c : Client) (serial : String) : (c.scannerId serial).2.packets = c.packets := by
  have enrolment := c.scannerId_enrolment serial
  generalize c.scannerId serial = answer at enrolment ⊢
  cases enrolment with
  | known => rfl
  | full => rfl
  | added unknown =>
    have absent := Table.find?_eq_none_iff.mp (Option.map_eq_none_iff.mp unknown)
    have added := Table.insertEntry_perm_of_absent absent ({ id := UInt16.ofNat c.scanners.size } : Scanner)
    exact (packets_of_perm added).trans (Nat.zero_add _)

theorem packets_countPacket {c : Client} (numbered : c.Numbered) {p : Packet} {id : UInt16}
    (known : c.numberOf? p.serial = some id) : (c.countPacket p).packets = c.packets + 1 := by
  obtain ⟨s, found, _⟩ := Option.map_eq_some_iff.mp known
  have member := (Table.find?_eq_some_iff numbered.ascending).mp found
  obtain ⟨others, before, after⟩ := Table.insertEntry_perm_of_mem numbered.ascending member (s.count p)
  have counted : (c.countPacket p).packets = (((p.serial, s.count p) :: others).map fun e => e.2.packets).sum := by
    rw [countPacket, found]
    exact packets_of_perm after
  simp only [counted, packets_of_perm before, List.map_cons, List.sum_cons, Scanner.packets_count]
  omega

/-- A client with other counts of what it has turned away. -/
def tallied (c : Client) (errors rejected : Nat) : Client := { c with decodeErrors := errors, rejected }

section Tallied

variable (c : Client) (errors rejected : Nat)

theorem tallied_logging : (c.tallied errors rejected).logging = c.logging := rfl

theorem scannerId_tallied (serial : String) : (c.tallied errors rejected).scannerId serial =
    ((c.scannerId serial).1, (c.scannerId serial).2.tallied errors rejected) := by
  unfold scannerId tallied
  dsimp only
  split
  · rfl
  split <;> rfl

theorem countPacket_tallied (p : Packet) :
    (c.tallied errors rejected).countPacket p = (c.countPacket p).tallied errors rejected := by
  unfold countPacket tallied
  dsimp only
  split <;> rfl

theorem keep_tallied (p : Packet) (base : UInt64) (id : UInt16) :
    (c.tallied errors rejected).keep p base id = (c.keep p base id).tallied errors rejected := by
  unfold keep tallied
  split <;> rfl

variable {c} {p : Packet} (now : UInt64) (a : Clock.Authority)

/-- A packet that is not turned away does the same whatever has been turned away, and leaves these counts alone. -/
theorem ingest_tallied {id : UInt16} (given : (c.scannerId p.serial).1 = some id) :
    (c.tallied errors rejected).ingest now p a =
      ((c.ingest now p a).1.tallied errors rejected, (c.ingest now p a).2) := by
  have given' : ((c.tallied errors rejected).scannerId p.serial).1 = some id := by rw [scannerId_tallied, given]
  rw [ingest_of_some now a given', ingest_of_some now a given, scannerId_tallied, countPacket_tallied]
  split
  · rfl
  · dsimp only
    rw [keep_tallied, tallied_logging]
    split <;> rfl

theorem stampOf?_tallied : (c.tallied errors rejected).stampOf? now p a = c.stampOf? now p a := by
  rw [stampOf?, scannerId_tallied, stampOf?]

end Tallied

section Arrivals

theorem arrivals_of_tallied {c : Client} {errors rejected : Nat} (same : c = c.tallied errors rejected) :
    c.arrivals = errors + rejected + c.packets := by
  rw [same]
  rfl

theorem arrivals_scannerId (c : Client) (serial : String) : (c.scannerId serial).2.arrivals = c.arrivals := by
  have same : (c.scannerId serial).2 = (c.scannerId serial).2.tallied c.decodeErrors c.rejected :=
    congrArg (·.2) (c.scannerId_tallied c.decodeErrors c.rejected serial)
  rw [arrivals_of_tallied same, packets_scannerId, arrivals]

theorem arrivals_ingest {c : Client} (numbered : c.Numbered) (now : UInt64) (p : Packet) (a : Clock.Authority) :
    (c.ingest now p a).1.arrivals = c.arrivals + 1 := by
  cases answer : (c.scannerId p.serial).1 with
  | none =>
    rw [ingest_of_none now a answer]
    simp only [arrivals, packets]
    omega
  | some id =>
    have same : (c.ingest now p a).1 = (c.ingest now p a).1.tallied c.decodeErrors c.rejected :=
      congrArg (·.1) (ingest_tallied c.decodeErrors c.rejected now a answer)
    have known : (c.scannerId p.serial).2.numberOf? p.serial = some id := by rw [← scannerId_fst, answer]
    have counted : (c.ingest now p a).1.packets = c.packets + 1 := by
      rw [packets, ingest_scanners, ← packets, packets_countPacket (numbered.scannerId p.serial) known,
        packets_scannerId]
    rw [arrivals_of_tallied same, counted, arrivals]
    omega

end Arrivals

/-- One client is another with the samples of a packet behind those that it keeps, each under the number of the scanner
and at the time of the packet and its own offset together, or at the last time there is. -/
def Gains (p : Packet) (base : UInt64) (id : UInt16) (before after : Client) : Prop :=
  match p.payload with
  | .points samples =>
    after.points = before.points ++ samples.map (·.stamped base id) ∧ after.motion = before.motion ∧
      ∀ raw ∈ samples, (raw.stamped base id).timestamp.toNat = min (base.toNat + raw.offset.toNat) (UInt64.size - 1)
  | .motion samples =>
    after.motion = before.motion ++ samples.map (·.stamped base id) ∧ after.points = before.points ∧
      ∀ raw ∈ samples, (raw.stamped base id).timestamp.toNat = min (base.toNat + raw.offset.toNat) (UInt64.size - 1)

section Ingest

variable {c : Client} {p : Packet} {id : UInt16} (now : UInt64) (a : Clock.Authority)
  (given : (c.scannerId p.serial).1 = some id)

include given in
theorem ingest_of_silent (zero : p.timestamp = 0) :
    (c.ingest now p a).1.points = c.points ∧ (c.ingest now p a).1.motion = c.motion ∧ (c.ingest now p a).2 = a := by
  have kept := c.ingest_kept now p a
  have none : c.stampOf? now p a = none := by rw [stampOf?, given]; exact if_pos zero
  simp only [Client.kept, Prod.mk.injEq, pointsOf, motionOf, none, ite_self, List.append_nil] at kept
  refine ⟨kept.2.1, kept.2.2, ?_⟩
  rw [ingest_of_some now a given, if_pos zero]

include given in
theorem ingest_of_running (running : p.timestamp ≠ 0) :
    (c.ingest now p a).2 = (a.correctAt p.timestamp now).2 ∧
    if c.logging then Gains p (a.correctAt p.timestamp now).1 id c (c.ingest now p a).1
    else (c.ingest now p a).1.points = c.points ∧ (c.ingest now p a).1.motion = c.motion := by
  have kept := c.ingest_kept now p a
  have stamp : c.stampOf? now p a = some ((a.correctAt p.timestamp now).1, id) := by
    rw [stampOf?, given]
    exact if_neg running
  refine ⟨by rw [ingest_of_some now a given, if_neg running], ?_⟩
  simp only [Client.kept, Prod.mk.injEq, pointsOf, motionOf, stamp] at kept
  obtain ⟨_, points, motion⟩ := kept
  split
  · rename_i on
    unfold Gains
    split <;> rename_i samples payload
    all_goals simp only [on, payload, if_true, List.append_nil] at points motion
    · exact ⟨points, motion, fun raw _ => toNat_laterBy _ raw.offset⟩
    · exact ⟨motion, points, fun raw _ => toNat_laterBy _ raw.offset⟩
  · rename_i off
    rw [if_neg off, List.append_nil] at points motion
    exact ⟨points, motion⟩

end Ingest

end Client

/-- Whether it brings something to the client that the client must count. -/
def Act.arrives : Act → Bool
  | .packet .. => true
  | .datagram .. => true
  | _ => false

namespace Watch

/-- Whether an act is anything but a packet of a scanner for which there is no number or a datagram that is no packet. -/
def accepts (w : Watch) : Act → Bool
  | .packet _ p => (w.client.scannerId p.serial).1.isSome
  | .datagram _ bytes =>
    match Packet.decode bytes with
    | .ok p => (w.client.scannerId p.serial).1.isSome
    | .error _ => false
  | _ => true

/-- What is left of the acts without those that are turned away. -/
def accepted (w : Watch) : List Act → List Act
  | [] => []
  | k :: acts => if w.accepts k then k :: (w.act k).accepted acts else (w.act k).accepted acts

/-- The same with other counts of what has been turned away. -/
def tallied (w : Watch) (errors rejected : Nat) : Watch := { w with client := w.client.tallied errors rejected }

theorem arrivals_act {w : Watch} (faithful : w.Faithful) (k : Act) :
    (w.act k).client.arrivals = w.client.arrivals + if k.arrives then 1 else 0 := by
  cases k with
  | number serial => exact w.client.arrivals_scannerId serial
  | packet now p => exact Client.arrivals_ingest faithful.numbered now p w.authority
  | datagram now bytes =>
    cases decoded : Packet.decode bytes with
    | ok p =>
      rw [act_datagram_of_ok w now decoded]
      exact Client.arrivals_ingest faithful.numbered now p w.authority
    | error =>
      rw [act_datagram_of_error w now decoded]
      simp only [Client.arrivals, Client.packets, Act.arrives, if_true]
      omega
  | start =>
    unfold act Client.start
    dsimp only
    split <;> rfl
  | opened => rfl
  | stop => rfl
  | freeze => rfl

theorem arrivals_run {w : Watch} (faithful : w.Faithful) (acts : List Act) :
    (w.run acts).client.arrivals = w.client.arrivals + acts.countP Act.arrives := by
  induction acts generalizing w with
  | nil => rfl
  | cons k acts ih =>
    have later : (w.run (k :: acts)).client.arrivals = _ := ih (faithful.act k)
    rw [later, arrivals_act faithful k, List.countP_cons]
    omega

section Tallied

variable (w : Watch) (errors rejected : Nat)

theorem originsAfter_tallied (now : UInt64) (p : Option Packet) :
    (w.tallied errors rejected).originsAfter now p = w.originsAfter now p := by
  cases p with
  | none => rfl
  | some p =>
    have stamp := Client.stampOf?_tallied errors rejected (c := w.client) (p := p) now w.authority
    simp only [originsAfter, tallied, Client.pointsOf, Client.motionOf, stamp]
    rfl

variable {w}

/-- What is turned away changes the counts of it alone. -/
theorem act_of_refused {k : Act} (refused : w.accepts k = false) : ∃ e r, w.act k = w.tallied e r := by
  have packet : ∀ now p, (w.client.scannerId p.serial).1.isSome = false →
      ∃ e r, w.act (.packet now p) = w.tallied e r := by
    intro now p missing
    have none : (w.client.scannerId p.serial).1 = none := by simpa using missing
    have stamp : w.client.stampOf? now p w.authority = Option.none := by rw [Client.stampOf?, none]
    have origins : w.originsAfter now (some p) = w.origins := by
      simp [originsAfter, Client.pointsOf, Client.motionOf, stamp, Origins.add]
    refine ⟨w.client.decodeErrors, w.client.rejected + 1, ?_⟩
    simp only [act, Client.ingest_of_none now w.authority none, origins]
    rfl
  cases k with
  | packet now p => exact packet now p refused
  | datagram now bytes =>
    cases decoded : Packet.decode bytes with
    | ok p =>
      rw [act_datagram_of_ok w now decoded]
      simp only [accepts, decoded] at refused
      exact packet now p refused
    | error => exact ⟨_, _, act_datagram_of_error w now decoded⟩
  | _ => cases refused

theorem act_tallied {k : Act} (accepted : w.accepts k = true) :
    (w.tallied errors rejected).act k = (w.act k).tallied errors rejected := by
  have packet : ∀ now p, (w.client.scannerId p.serial).1.isSome = true →
      (w.tallied errors rejected).act (.packet now p) = (w.act (.packet now p)).tallied errors rejected := by
    intro now p given
    obtain ⟨id, given⟩ := Option.isSome_iff_exists.mp given
    have same := Client.ingest_tallied errors rejected now w.authority given
    simp only [act, originsAfter_tallied]
    simp only [tallied, same]
  cases k with
  | packet now p => exact packet now p accepted
  | datagram now bytes =>
    cases decoded : Packet.decode bytes with
    | ok p =>
      rw [act_datagram_of_ok _ now decoded, act_datagram_of_ok _ now decoded]
      simp only [accepts, decoded] at accepted
      exact packet now p accepted
    | error => simp [accepts, decoded] at accepted
  | number serial => simp only [act, tallied, Client.scannerId_tallied]
  | start =>
    unfold act Client.start tallied Client.tallied
    dsimp only
    split <;> rfl
  | opened => rfl
  | stop => rfl
  | freeze => rfl

variable (w)

/-- Without what is turned away a run comes to the same, but for the counts of it. -/
theorem run_accepted (acts : List Act) :
    (w.tallied errors rejected).run (w.accepted acts) = (w.run acts).tallied errors rejected := by
  induction acts generalizing w with
  | nil => rfl
  | cons k acts ih =>
    have later : (w.run (k :: acts)).tallied errors rejected = ((w.act k).run acts).tallied errors rejected := rfl
    rw [later, ← ih, accepted]
    split
    · rename_i taken
      rw [← act_tallied errors rejected taken]
      rfl
    · rename_i refused
      -- The counts that it has changed are set anew, so that it might as well not have come.
      obtain ⟨e, r, same⟩ := act_of_refused (Bool.eq_false_iff.mpr refused)
      rw [same]
      rfl

end Tallied

/-- Over any run from the start everything that arrives has been counted, as no packet, as turned away or for its
scanner. A packet of a scanner with a number brings its samples while the client logs, and nothing as long as the clock
of the scanner does not run. Had nothing of what was turned away arrived, all would be as it is but for its counts. -/
theorem traffic_accounted (serials : List String) (authority : Clock.Authority) (acts : List Act) :
    let w := (fresh serials authority).run acts
    acts.countP Act.arrives = w.client.decodeErrors + w.client.rejected +
      (w.client.scanners.entries.map fun e => e.2.pointPackets + e.2.motionPackets).sum ∧
    (∀ now bytes p id, Packet.decode bytes = .ok p → (w.client.scannerId p.serial).1 = some id →
      let after := w.act (.datagram now bytes)
      let (base, authority) := w.authority.correctAt p.timestamp now
      if p.timestamp = 0 then
        after.client.points = w.client.points ∧ after.client.motion = w.client.motion ∧ after.authority = w.authority
      else after.authority = authority ∧
        if w.client.logging then Client.Gains p base id w.client after.client
        else after.client.points = w.client.points ∧ after.client.motion = w.client.motion) ∧
    (fresh serials authority).run ((fresh serials authority).accepted acts) =
      { w with client := { w.client with decodeErrors := 0, rejected := 0 } } := by
  intro w
  refine ⟨?_, fun now bytes p id decoded given => ?_, run_accepted (fresh serials authority) 0 0 acts⟩
  · have counted : w.client.arrivals = _ := arrivals_run (Faithful.fresh serials authority) acts
    have start : (fresh serials authority).client.arrivals = 0 := Client.arrivals_new serials
    rw [start, Nat.zero_add] at counted
    exact counted.symm
  · dsimp only
    rw [act_datagram_of_ok w now decoded]
    split
    · rename_i zero
      exact Client.ingest_of_silent now w.authority given zero
    · rename_i running
      exact Client.ingest_of_running now w.authority given running

/-- All numbers but one are given out. Of what arrives then, one datagram is no packet, one takes the last number, and
one comes too late for any. -/
def strayTraffic : List Act :=
  ["0", "1", "2", "3", "4", "5", "6", "7", "8", "9", "V", "W", "X", "Y", "Z"].map Act.number ++
    [.start, .datagram 90 [1, 2, 3], .datagram 100 (onePoint "B").encode, .datagram 105 (onePoint "late").encode,
      .freeze]

/-- Its point lies beyond the last time there is. -/
def lastPacket : Packet := { onePoint "B" with timestamp := 18446744073709551600 }

theorem traffic_accounted_stray :
    let w := (fresh [] {}).run strayTraffic
    (strayTraffic.countP Act.arrives = 3 ∧ w.client.decodeErrors = 1 ∧ w.client.rejected = 1 ∧
      (w.client.scanners.entries.map fun e => e.2.pointPackets + e.2.motionPackets).sum = 1) ∧
    (Packet.decode lastPacket.encode = .ok lastPacket ∧ (w.client.scannerId lastPacket.serial).1 = some 15 ∧
      (w.act (.datagram 110 lastPacket.encode)).client.points =
        [{ x := 1, y := 2, z := 3, reflectivity := 4, tag := 5, timestamp := 18446744073709551615, lidar := 15 }]) ∧
    ((fresh [] {}).accepted strayTraffic).countP Act.arrives = 1 ∧
    (fresh [] {}).run ((fresh [] {}).accepted strayTraffic) =
      { w with client := { w.client with decodeErrors := 0, rejected := 0 } } := by
  intro w
  obtain ⟨counted, brought, same⟩ := traffic_accounted [] {} strayTraffic
  have arrived : strayTraffic.countP Act.arrives = 3 := by decide
  have errors : w.client.decodeErrors = 1 := by decide +kernel
  have rejected : w.client.rejected = 1 := by decide +kernel
  have decoded : Packet.decode lastPacket.encode = .ok lastPacket := by decide +kernel
  have given : (w.client.scannerId lastPacket.serial).1 = some 15 := by decide +kernel
  have total : (w.client.scanners.entries.map fun e => e.2.pointPackets + e.2.motionPackets).sum = 1 := by
    rw [arrived, errors, rejected] at counted
    exact Nat.add_left_cancel (counted.symm : 1 + 1 + _ = 1 + 1 + 1)
  have left : ((fresh [] {}).accepted strayTraffic).countP Act.arrives = 1 := by decide +kernel
  have points : (w.act (.datagram 110 lastPacket.encode)).client.points =
      [{ x := 1, y := 2, z := 3, reflectivity := 4, tag := 5, timestamp := 18446744073709551615, lidar := 15 }] := by
    have added := brought 110 lastPacket.encode lastPacket 15 decoded given
    have running : lastPacket.timestamp ≠ 0 := by decide
    have logging : w.client.logging = true := by decide +kernel
    have before : w.client.points = [] := by decide +kernel
    have base : (w.authority.correctAt lastPacket.timestamp 110).1 = 18446744073709551615 := by decide +kernel
    dsimp only at added
    rw [if_neg running, if_pos logging, base] at added
    obtain ⟨_, gained, _⟩ := added
    rw [before] at gained
    exact gained
  exact ⟨⟨arrived, errors, rejected, total⟩, ⟨decoded, given, points⟩, left, same⟩

end Watch

end CaptureRig.Lidar
