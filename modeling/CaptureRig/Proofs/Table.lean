import CaptureRig.Table

namespace CaptureRig.Table

variable {κ ν : Type}

/-- The keys ascend. -/
def Ascending [LT κ] (entries : List (κ × ν)) : Prop := entries.Pairwise fun a b => a.1 < b.1

theorem find?_eq_none_iff [DecidableEq κ] {t : Table κ ν} {key : κ} :
    t.find? key = none ↔ ∀ e ∈ t.entries, e.1 ≠ key := by
  simp [find?]

section Insertion

variable [LT κ] [DecidableLT κ] [DecidableEq κ]

theorem mem_insertEntry {key : κ} {value : ν} {entries : List (κ × ν)} {e : κ × ν}
    (member : e ∈ insertEntry key value entries) : e = (key, value) ∨ e ∈ entries := by
  induction entries with
  | nil => exact Or.inl (List.mem_singleton.mp member)
  | cons first rest ih =>
    obtain ⟨k, v⟩ := first
    unfold insertEntry at member
    split at member
    · exact List.mem_cons.mp member
    split at member
    · exact (List.mem_cons.mp member).imp_right (List.mem_cons_of_mem _)
    · rcases List.mem_cons.mp member with rfl | later
      · exact Or.inr List.mem_cons_self
      · exact (ih later).imp_right (List.mem_cons_of_mem _)

/-- An entry of a new key comes to those that are there. -/
theorem insertEntry_perm_of_absent {key : κ} {entries : List (κ × ν)} (absent : ∀ e ∈ entries, e.1 ≠ key) (value : ν) :
    (insertEntry key value entries).Perm ((key, value) :: entries) := by
  induction entries with
  | nil => exact .refl _
  | cons first rest ih =>
    obtain ⟨k, v⟩ := first
    have other : key ≠ k := (absent (k, v) List.mem_cons_self).symm
    have later := ih fun e member => absent e (List.mem_cons_of_mem _ member)
    unfold insertEntry
    rw [if_neg other]
    split
    · exact .refl _
    · exact (later.cons _).trans (.swap _ _ _)

end Insertion

section Order

variable [LE κ] [LT κ] [Std.LawfulOrderLT κ] {entries : List (κ × ν)} (ascending : Ascending entries)

theorem Ascending.ne_of_mem {k : κ} {v : ν} (ascending : Ascending ((k, v) :: entries))
    {e : κ × ν} (member : e ∈ entries) : e.1 ≠ k :=
  (Std.ne_of_lt ((List.pairwise_cons.mp ascending).1 e member)).symm

include ascending in
theorem Ascending.nodup : (entries.map (·.1)).Nodup :=
  List.pairwise_map.mpr (ascending.imp fun less => Std.ne_of_lt less)

include ascending in
/-- An entry of a key that is there takes the place of the one before. -/
theorem insertEntry_perm_of_mem [DecidableLT κ] [DecidableEq κ] {key : κ} {old : ν}
    (member : (key, old) ∈ entries) (value : ν) :
    ∃ others, entries.Perm ((key, old) :: others) ∧ (insertEntry key value entries).Perm ((key, value) :: others) := by
  induction entries with
  | nil => cases member
  | cons first rest ih =>
    obtain ⟨k, v⟩ := first
    obtain ⟨least, later⟩ := List.pairwise_cons.mp ascending
    by_cases same : key = k
    · subst same
      have here : (key, old) = (key, v) := by
        rcases List.mem_cons.mp member with here | further
        · exact here
        · exact absurd rfl (ascending.ne_of_mem further)
      refine ⟨rest, here ▸ .refl _, ?_⟩
      have put : insertEntry key value ((key, v) :: rest) = (key, value) :: rest := by
        rw [insertEntry, if_neg Std.lt_irrefl, if_pos rfl]
      exact put ▸ .refl _
    · have further : (key, old) ∈ rest := by
        rcases List.mem_cons.mp member with here | further
        · exact absurd (Prod.mk.inj here).1 same
        · exact further
      have notBefore : ¬ key < k := Std.not_gt_of_lt (least _ further)
      have put : insertEntry key value ((k, v) :: rest) = (k, v) :: insertEntry key value rest := by
        rw [insertEntry, if_neg notBefore, if_neg same]
      obtain ⟨others, before, after⟩ := ih later further
      refine ⟨(k, v) :: others, (before.cons _).trans (.swap _ _ _), ?_⟩
      rw [put]
      exact (after.cons _).trans (.swap _ _ _)

theorem find?_eq_some_iff [DecidableEq κ] {t : Table κ ν} (ascending : Ascending t.entries) {key : κ} {value : ν} :
    t.find? key = some value ↔ (key, value) ∈ t.entries := by
  unfold find?
  obtain ⟨entries⟩ := t
  induction entries with
  | nil => simp
  | cons first rest ih =>
    obtain ⟨k, v⟩ := first
    have later := ih (List.pairwise_cons.mp ascending).2
    by_cases same : k = key
    · subst same
      have none : (k, value) ∉ rest := fun further => ascending.ne_of_mem further rfl
      simp [none, eq_comm]
    · have other : key ≠ k := Ne.symm same
      simpa [same, other] using later

variable [DecidableLT κ] [DecidableEq κ]

include ascending in
theorem Ascending.insertEntry [Std.IsLinearOrder κ] (key : κ) (value : ν) :
    Ascending (insertEntry key value entries) := by
  induction entries with
  | nil => exact List.pairwise_singleton ..
  | cons first rest ih =>
    obtain ⟨k, v⟩ := first
    obtain ⟨least, others⟩ := List.pairwise_cons.mp ascending
    unfold Table.insertEntry
    split
    · rename_i before
      refine List.pairwise_cons.mpr ⟨fun e member => ?_, ascending⟩
      rcases List.mem_cons.mp member with rfl | later
      · exact before
      · exact Std.lt_trans before (least e later)
    split
    · rename_i same
      subst same
      exact List.pairwise_cons.mpr ⟨least, others⟩
    · rename_i notBefore other
      have after : k < key := Std.lt_of_le_of_ne (Std.not_lt.mp notBefore) (Ne.symm other)
      refine List.pairwise_cons.mpr ⟨fun e member => ?_, ih others⟩
      rcases mem_insertEntry member with rfl | old
      · exact after
      · exact least e old

theorem insertEntry_of_lt {key : κ} (less : ∀ e ∈ entries, e.1 < key) (value : ν) :
    insertEntry key value entries = entries ++ [(key, value)] := by
  induction entries with
  | nil => rfl
  | cons first rest ih =>
    obtain ⟨k, v⟩ := first
    have here : k < key := less (k, v) List.mem_cons_self
    rw [insertEntry, if_neg (Std.not_gt_of_lt here), if_neg (Std.ne_of_lt here).symm,
      ih fun e member => less e (List.mem_cons_of_mem _ member)]
    rfl

/-- Entries that ascend make a table of just these. -/
theorem entries_ofList {pairs : List (κ × ν)} (ascending : Ascending pairs) : (ofList pairs).entries = pairs := by
  have grow : ∀ (rest before : List (κ × ν)), Ascending (before ++ rest) →
      (rest.foldl (fun (t : Table κ ν) e => t.insert e.1 e.2) ⟨before⟩).entries = before ++ rest := by
    intro rest
    induction rest with
    | nil => intro before _; exact (List.append_nil before).symm
    | cons first rest ih =>
      intro before whole
      have less : ∀ e ∈ before, e.1 < first.1 := fun e member =>
        (List.pairwise_append.mp whole).2.2 e member first List.mem_cons_self
      have step : (⟨before⟩ : Table κ ν).insert first.1 first.2 = ⟨before ++ [first]⟩ :=
        congrArg Table.mk (insertEntry_of_lt less first.2)
      rw [List.append_cons] at whole
      simp only [List.foldl_cons, step]
      rw [ih _ whole, ← List.append_cons]
  exact grow pairs [] ascending

omit [DecidableLT κ] [DecidableEq κ] in
include ascending in
/-- Entries that ascend are determined by which they are. -/
theorem Ascending.eq_of_perm {others : List (κ × ν)} (ascending' : Ascending others) (perm : entries.Perm others) :
    entries = others :=
  List.Perm.eq_of_pairwise (fun _ _ _ _ less greater => absurd greater (Std.not_gt_of_lt less)) ascending ascending' perm

theorem ascending_ofList [Std.IsLinearOrder κ] (pairs : List (κ × ν)) : Ascending (ofList pairs).entries := by
  have grow : ∀ (rest : List (κ × ν)) (t : Table κ ν), Ascending t.entries →
      Ascending (rest.foldl (fun (t : Table κ ν) e => t.insert e.1 e.2) t).entries := by
    intro rest
    induction rest with
    | nil => exact fun t ascending => ascending
    | cons first rest ih => exact fun t ascending => ih _ (ascending.insertEntry first.1 first.2)
  exact grow pairs ⟨[]⟩ .nil

end Order

section Pairs

variable [LT κ] [DecidableLT κ] [DecidableEq κ]

/-- Pairs of different keys make a table of just these. -/
theorem ofList_perm {pairs : List (κ × ν)} (distinct : (pairs.map (·.1)).Nodup) : (ofList pairs).entries.Perm pairs := by
  have grow : ∀ (rest : List (κ × ν)) (t : Table κ ν), ((t.entries ++ rest).map (·.1)).Nodup →
      (rest.foldl (fun (t : Table κ ν) e => t.insert e.1 e.2) t).entries.Perm (t.entries ++ rest) := by
    intro rest
    induction rest with
    | nil => exact fun t _ => .of_eq (List.append_nil _).symm
    | cons first rest ih =>
      intro t distinct
      have absent : ∀ e ∈ t.entries, e.1 ≠ first.1 := by
        rw [List.map_append, List.map_cons] at distinct
        intro e member
        exact (List.nodup_append.mp distinct).2.2 _ (List.mem_map_of_mem member) _ List.mem_cons_self
      have put : (t.insert first.1 first.2).entries.Perm (first :: t.entries) :=
        insertEntry_perm_of_absent absent first.2
      have whole : ((t.insert first.1 first.2).entries ++ rest).Perm (t.entries ++ first :: rest) :=
        (put.append_right rest).trans List.perm_middle.symm
      exact (ih _ ((whole.map _).nodup_iff.mpr distinct)).trans whole
  exact grow pairs ⟨[]⟩ distinct

end Pairs

end CaptureRig.Table
