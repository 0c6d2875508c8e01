import CaptureRig.Lidar.Client
import CaptureRig.Proofs.Table
import Mathlib

namespace CaptureRig.Lidar

/-- How many distinct serials of a list come before one. -/
def rank (serials : List String) (serial : String) : Nat := (serials.filter (· < serial)).dedup.length

section Ascending

variable {α : Type} [LinearOrder α]

theorem eraseReps_loop {a : α} {rest : List α} (ascending : (a :: rest).Pairwise (· ≤ ·)) (acc : List α) :
    ∃ kept, List.eraseRepsBy.loop (· == ·) a rest acc = acc.reverse ++ kept ∧ kept.Pairwise (· < ·) ∧
      ∀ x, x ∈ kept ↔ x ∈ a :: rest := by
  -- `a` is the member read last. It is kept once a different one follows or nothing does.
  induction rest generalizing a acc with
  | nil => exact ⟨[a], by simp [List.eraseRepsBy.loop], List.pairwise_singleton .., fun _ => Iff.rfl⟩
  | cons b rest ih =>
    obtain ⟨least, others⟩ := List.pairwise_cons.mp ascending
    unfold List.eraseRepsBy.loop
    by_cases same : a = b
    · subst same
      obtain ⟨kept, run, strict, members⟩ := ih others acc
      refine ⟨kept, by rw [BEq.rfl]; exact run, strict, fun x => ?_⟩
      rw [members x, List.mem_cons, List.mem_cons, List.mem_cons, or_self_left]
    · obtain ⟨kept, run, strict, members⟩ := ih others (a :: acc)
      refine ⟨a :: kept, ?_, ?_, fun x => ?_⟩
      · rw [beq_false_of_ne same, List.append_cons, ← List.reverse_cons]
        exact run
      · refine List.pairwise_cons.mpr ⟨fun x member => ?_, strict⟩
        have first : a < b := lt_of_le_of_ne (least b List.mem_cons_self) same
        rcases List.mem_cons.mp ((members x).mp member) with rfl | later
        · exact first
        · exact lt_of_lt_of_le first ((List.pairwise_cons.mp others).1 x later)
      · rw [List.mem_cons, members x, ← List.mem_cons]

/-- In an ascending list each member stands after as many others as are less than it. -/
theorem getElem?_of_ascending {xs : List α} (ascending : xs.Pairwise (· < ·)) {x : α} (member : x ∈ xs) :
    xs[(xs.filter (· < x)).length]? = some x := by
  induction xs with
  | nil => cases member
  | cons first rest ih =>
    obtain ⟨least, others⟩ := List.pairwise_cons.mp ascending
    rcases List.mem_cons.mp member with rfl | later
    · have none : (x :: rest).filter (· < x) = [] := by
        rw [List.filter_eq_nil_iff]
        intro y inside
        rcases List.mem_cons.mp inside with rfl | later
        · simp
        · simpa using (least y later).le
      rw [none]
      rfl
    · rw [List.filter_cons_of_pos (by simpa using least x later), List.length_cons, List.getElem?_cons_succ]
      exact ih others later

end Ascending

theorem distinctSerials_ascending (serials : List String) : (distinctSerials serials).Pairwise (· < ·) ∧
    ∀ x, x ∈ distinctSerials serials ↔ x ∈ serials := by
  have sorted : (serials.mergeSort fun a b => a ≤ b).Pairwise (· ≤ ·) := by
    have pairs : (serials.mergeSort fun a b => a ≤ b).Pairwise fun a b => decide (a ≤ b) = true := by
      refine List.pairwise_mergeSort (fun a b c first second => ?_) (fun a b => ?_) serials
      · exact decide_eq_true (le_trans (of_decide_eq_true first) (of_decide_eq_true second))
      · rw [Bool.or_eq_true, decide_eq_true_eq, decide_eq_true_eq]
        exact le_total a b
    exact pairs.imp of_decide_eq_true
  have members : ∀ x, x ∈ (serials.mergeSort fun a b => a ≤ b) ↔ x ∈ serials := fun x => List.mem_mergeSort
  unfold distinctSerials List.eraseReps
  cases order : serials.mergeSort fun a b => a ≤ b with
  | nil =>
    rw [order] at members
    exact ⟨.nil, members⟩
  | cons a rest =>
    rw [order] at sorted members
    obtain ⟨kept, run, strict, same⟩ := eraseReps_loop sorted []
    have whole : (a :: rest).eraseRepsBy (· == ·) = kept := run
    rw [whole]
    exact ⟨strict, fun x => (same x).trans (members x)⟩

theorem getElem?_distinctSerials {serials : List String} {serial : String} (member : serial ∈ serials) :
    (distinctSerials serials)[rank serials serial]? = some serial := by
  obtain ⟨ascending, members⟩ := distinctSerials_ascending serials
  have same : ((serials.filter (· < serial)).dedup).Perm ((distinctSerials serials).filter (· < serial)) := by
    have distinct : (distinctSerials serials).Nodup := ascending.imp fun less => less.ne
    refine (List.perm_ext_iff_of_nodup (List.nodup_dedup _) (distinct.filter _)).mpr fun x => ?_
    rw [List.mem_dedup, List.mem_filter, List.mem_filter, members x]
  rw [rank, same.length_eq]
  exact getElem?_of_ascending ascending ((members serial).mpr member)

theorem Scanner.count_id (s : Scanner) (p : Packet) : (s.count p).id = s.id := by
  unfold count
  split <;> rfl

/-- Where no key stands twice, an entry is all that is found under its key. -/
theorem filter_eq_singleton {α β : Type} [DecidableEq α] {pairs : List (α × β)} (distinct : (pairs.map (·.1)).Nodup)
    {x : α × β} (member : x ∈ pairs) : pairs.filter (·.1 = x.1) = [x] := by
  induction pairs with
  | nil => cases member
  | cons first rest ih =>
    obtain ⟨fresh, others⟩ := List.nodup_cons.mp distinct
    rcases List.mem_cons.mp member with rfl | later
    · have none : rest.filter (·.1 = x.1) = [] := by
        rw [List.filter_eq_nil_iff]
        intro y inside same
        exact fresh (List.mem_map.mpr ⟨y, inside, of_decide_eq_true same⟩)
      rw [List.filter_cons_of_pos (by simp), none]
    · have different : first.1 ≠ x.1 := fun same => fresh (List.mem_map.mpr ⟨x, later, same.symm⟩)
      rw [List.filter_cons_of_neg (by simpa using different)]
      exact ih others later

namespace Client

/-- The number of a scanner that has one. -/
def numberOf? (c : Client) (serial : String) : Option UInt16 := (c.scanners.find? serial).map (·.id)

/-- The serials ascend, and the numbers that stand with them are those from zero on, each once. -/
structure Numbered (c : Client) : Prop where
  ascending : Table.Ascending c.scanners.entries
  dense : (c.scanners.entries.map (·.2.id.toNat)).Perm (List.range c.scanners.size)
  limited : c.scanners.size ≤ scannerLimit

/-- A number stands once among the serials, with the scanner that has it. -/
theorem Numbered.filter_serials {c : Client} (numbered : c.Numbered) {serial : String} {id : UInt16}
    (known : c.numberOf? serial = some id) : c.serials.filter (·.1 = id) = [(id, serial)] := by
  obtain ⟨s, found, rfl⟩ := Option.map_eq_some_iff.mp known
  have member := (Table.find?_eq_some_iff numbered.ascending).mp found
  have distinct : (c.serials.map (·.1)).Nodup := by
    have numbers : (c.scanners.entries.map (·.2.id.toNat)).Nodup := numbered.dense.nodup_iff.mpr List.nodup_range
    have same : c.scanners.entries.map (·.2.id.toNat) = (c.serials.map (·.1)).map (·.toNat) := by
      simp only [serials, List.map_map, Function.comp_def]
    exact List.Nodup.of_map _ (same ▸ numbers)
  exact filter_eq_singleton distinct (List.mem_map.mpr ⟨(serial, s), member, rfl⟩)

section New

variable (serials : List String)

theorem pairs_ascending (n : Nat) : Table.Ascending (((distinctSerials serials).take n).zipIdx.map fun (serial, i) =>
    ((serial, { id := UInt16.ofNat i }) : String × Scanner)) := by
  have ascending : (((distinctSerials serials).take n).zipIdx.map (·.1)).Pairwise (· < ·) := by
    rw [List.zipIdx_map_fst]
    exact (distinctSerials_ascending serials).1.sublist (List.take_sublist ..)
  exact List.pairwise_map.mpr (List.pairwise_map.mp ascending)

theorem entries_new : (new serials).scanners.entries = ((distinctSerials serials).take scannerLimit).zipIdx.map
    fun (serial, i) => (serial, { id := UInt16.ofNat i }) :=
  Table.entries_ofList (pairs_ascending serials scannerLimit)

theorem size_new : (new serials).scanners.size = min scannerLimit (distinctSerials serials).length := by
  rw [Table.size, entries_new, List.length_map, List.length_zipIdx, List.length_take]

theorem new_numbered : (new serials).Numbered := by
  have few : (new serials).scanners.size ≤ scannerLimit := size_new serials ▸ Nat.min_le_left ..
  refine ⟨?_, ?_, few⟩
  · rw [entries_new]
    exact pairs_ascending serials scannerLimit
  · have numbers : (new serials).scanners.entries.map (·.2.id.toNat) = List.range (new serials).scanners.size := by
      refine List.ext_getElem (by rw [List.length_map, List.length_range, Table.size]) fun i inside _ => ?_
      have low : i < scannerLimit := lt_of_lt_of_le (by simpa [Table.size] using inside) few
      have small : i < UInt16.size := low.trans (by decide)
      simp only [entries_new, List.getElem_map, List.getElem_zipIdx, List.getElem_range, Nat.zero_add]
      exact UInt16.toNat_ofNat_of_lt' small
    rw [numbers]

/-- Of the serials known in advance, each has the number of those before it, as far as there are numbers. -/
theorem numberOf?_new {serial : String} (member : serial ∈ serials) (low : rank serials serial < scannerLimit) :
    (new serials).numberOf? serial = some (UInt16.ofNat (rank serials serial)) := by
  have placed : ((distinctSerials serials).take scannerLimit)[rank serials serial]? = some serial := by
    rw [List.getElem?_take_of_lt low]
    exact getElem?_distinctSerials member
  have found : (new serials).scanners.find? serial = some { id := UInt16.ofNat (rank serials serial) } := by
    rw [Table.find?_eq_some_iff (new_numbered serials).ascending, entries_new]
    exact List.mem_map.mpr ⟨(serial, rank serials serial), List.mem_zipIdx_iff_getElem?.mpr placed, rfl⟩
  rw [numberOf?, found]
  rfl

end New

/-- What looking up the number of a scanner comes to: it has one, it takes the next, or there is none left. -/
inductive Enrolment (c : Client) (serial : String) : Option UInt16 × Client → Prop
  | known {id : UInt16} (known : c.numberOf? serial = some id) : Enrolment c serial (some id, c)
  | full (unknown : c.numberOf? serial = none) (full : scannerLimit ≤ c.scanners.size) : Enrolment c serial (none, c)
  | added (unknown : c.numberOf? serial = none) (room : c.scanners.size < scannerLimit) :
      Enrolment c serial (some (UInt16.ofNat c.scanners.size),
        { c with scanners := c.scanners.insert serial { id := UInt16.ofNat c.scanners.size } })

theorem scannerId_enrolment (c : Client) (serial : String) : Enrolment c serial (c.scannerId serial) := by
  unfold scannerId
  split
  · rename_i s found
    exact .known (by rw [numberOf?, found]; rfl)
  · rename_i missing
    have unknown : c.numberOf? serial = none := by rw [numberOf?, missing]; rfl
    split
    · rename_i full
      exact .full unknown full
    · rename_i room
      exact .added unknown (Nat.lt_of_not_le room)

section Lookup

variable {c : Client} {serial : String}

theorem numberOf?_insert (c : Client) (serial other : String) (s : Scanner) :
    ({ c with scanners := c.scanners.insert serial s } : Client).numberOf? other =
      if other = serial then some s.id else c.numberOf? other := by
  by_cases same : other = serial
  · rw [if_pos same, same, numberOf?, Table.find?_insert_self]
    rfl
  · rw [if_neg same, numberOf?, Table.find?_insert_of_ne _ same]
    rfl

/-- The answer is the number that the scanner then has. -/
theorem scannerId_fst (c : Client) (serial : String) :
    (c.scannerId serial).1 = (c.scannerId serial).2.numberOf? serial := by
  have enrolment := c.scannerId_enrolment serial
  generalize c.scannerId serial = answer at enrolment ⊢
  cases enrolment with
  | known known => exact known.symm
  | full unknown => exact unknown.symm
  | added =>
    dsimp only
    rw [numberOf?_insert, if_pos rfl]

theorem numberOf?_kept_scannerId {other : String} {id : UInt16} (known : c.numberOf? other = some id) :
    (c.scannerId serial).2.numberOf? other = some id := by
  have enrolment := c.scannerId_enrolment serial
  generalize c.scannerId serial = answer at enrolment ⊢
  cases enrolment with
  | known => exact known
  | full => exact known
  | added unknown =>
    have different : other ≠ serial := by
      rintro rfl
      rw [unknown] at known
      cases known
    dsimp only
    rw [numberOf?_insert, if_neg different, known]

theorem numberOf?_countPacket (c : Client) (p : Packet) (serial : String) :
    (c.countPacket p).numberOf? serial = c.numberOf? serial := by
  unfold countPacket
  split
  · rename_i s found
    rw [numberOf?_insert, s.count_id]
    split
    · rename_i here
      rw [here, numberOf?, found]
      rfl
    · rfl
  · rfl

/-- No number is to be had exactly if the scanner has none and all are given out, and then nothing changes. -/
theorem Numbered.scannerId_eq_none (numbered : c.Numbered) :
    (c.scannerId serial).1 = none ↔ c.numberOf? serial = none ∧ c.scanners.size = scannerLimit := by
  have limited := numbered.limited
  have enrolment := c.scannerId_enrolment serial
  generalize c.scannerId serial = answer at enrolment
  cases enrolment with
  | known known => simp [known]
  | full unknown full => simp [unknown, Nat.le_antisymm limited full]
  | added _ room => simp [room.ne]

theorem scannerId_of_none (none : (c.scannerId serial).1 = none) : (c.scannerId serial).2 = c := by
  have enrolment := c.scannerId_enrolment serial
  generalize c.scannerId serial = answer at enrolment none
  cases enrolment with
  | full => rfl
  | _ => cases none

theorem Numbered.scannerId (numbered : c.Numbered) (serial : String) : (c.scannerId serial).2.Numbered := by
  have enrolment := c.scannerId_enrolment serial
  generalize c.scannerId serial = answer at enrolment ⊢
  cases enrolment with
  | known => exact numbered
  | full => exact numbered
  | added unknown room =>
    have absent := Table.find?_eq_none_iff.mp (Option.map_eq_none_iff.mp unknown)
    have added := Table.insertEntry_perm_of_absent absent ({ id := UInt16.ofNat c.scanners.size } : Scanner)
    have size : (c.scanners.insert serial { id := UInt16.ofNat c.scanners.size }).size = c.scanners.size + 1 :=
      added.length_eq
    have small : c.scanners.size < UInt16.size := room.trans (by decide)
    refine ⟨numbered.ascending.insertEntry serial _, ?_, ?_⟩
    · dsimp only
      rw [size, List.range_succ]
      refine (added.map _).trans ?_
      rw [List.map_cons, UInt16.toNat_ofNat_of_lt' small]
      exact (numbered.dense.cons _).trans (List.perm_append_singleton ..).symm
    · dsimp only
      rw [size]
      exact room

theorem Numbered.countPacket (numbered : c.Numbered) (p : Packet) : (c.countPacket p).Numbered := by
  unfold Client.countPacket
  split
  · rename_i s found
    have member := (Table.find?_eq_some_iff numbered.ascending).mp found
    obtain ⟨others, before, after⟩ := Table.insertEntry_perm_of_mem numbered.ascending member (s.count p)
    have size : (c.scanners.insert p.serial (s.count p)).size = c.scanners.size :=
      after.length_eq.trans before.length_eq.symm
    refine ⟨numbered.ascending.insertEntry p.serial _, ?_, ?_⟩
    · dsimp only
      rw [size]
      refine ((after.map _).trans ?_).trans numbered.dense
      rw [List.map_cons, s.count_id]
      exact (before.map fun e => e.2.id.toNat).symm
    · dsimp only
      rw [size]
      exact numbered.limited
  · exact numbered

end Lookup

end Client

end CaptureRig.Lidar
