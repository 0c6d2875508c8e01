import CaptureRig.Proofs.Registry
import CaptureRig.Proofs.Table
import CaptureRig.Status.Board
import Mathlib.Data.List.Induction

namespace CaptureRig.Status

/-- The report of the last reporter of a name. -/
def lastReport? (reports : List (String × Json)) (name : String) : Option Json :=
  ((reports.filter fun r => r.1 = name).getLast?).map (·.2)

theorem lastReport?_concat (reports : List (String × Json)) (r : String × Json) (name : String) :
    lastReport? (reports ++ [r]) name = if r.1 = name then some r.2 else lastReport? reports name := by
  unfold lastReport?
  rw [List.filter_append]
  split
  · rename_i same
    simp [same]
  · rename_i other
    simp [other]

namespace Document

/-- The documents that are begun, added to and given their clients, in any order. -/
inductive Built : Document → Prop
  | new (state : String) : Built (.new state)
  | insert {d} (built : Built d) (key : String) (report : Json) : Built (d.insert key report).2
  | setClients {d} (built : Built d) (clients : Table String Json) : Built (d.setClients clients)

/-- The reports ascend by their keys, and none has the key of a fixed member. -/
structure Sound (d : Document) : Prop where
  ascending : Table.Ascending d.reports.entries
  apart : ∀ e ∈ d.reports.entries, e.1 ≠ "name" ∧ e.1 ≠ "state"

theorem insert_of_reserved {key : String} (reserved : key ∈ reservedKeys) (d : Document) (report : Json) :
    d.insert key report = (false, d) :=
  if_pos (List.contains_iff_mem.mpr reserved)

theorem insert_of_free {key : String} (free : key ∉ reservedKeys) (d : Document) (report : Json) :
    d.insert key report = (true, { d with reports := d.reports.insert key report }) :=
  if_neg fun reserved => free (List.contains_iff_mem.mp reserved)

/-- A report is refused, and nothing changed, exactly if its key is reserved. -/
theorem insert_eq_false_iff {d : Document} {key : String} {report : Json} :
    (d.insert key report).1 = false ↔ key ∈ reservedKeys := by
  by_cases reserved : key ∈ reservedKeys
  · rw [insert_of_reserved reserved]
    exact iff_of_true rfl reserved
  · rw [insert_of_free reserved]
    exact iff_of_false nofun reserved

namespace Sound

variable {d : Document}

theorem new (state : String) : (Document.new state).Sound := ⟨.nil, nofun⟩

theorem put (sound : d.Sound) {key : String} (apart : key ≠ "name" ∧ key ≠ "state") (report : Json) :
    { d with reports := d.reports.insert key report : Document }.Sound where
  ascending := sound.ascending.insertEntry key report
  apart e member := by
    rcases Table.mem_insertEntry member with rfl | old
    · exact apart
    · exact sound.apart e old

theorem insert (sound : d.Sound) (key : String) (report : Json) : (d.insert key report).2.Sound := by
  by_cases reserved : key ∈ reservedKeys
  · rwa [insert_of_reserved reserved]
  · rw [insert_of_free reserved]
    refine sound.put ⟨?_, ?_⟩ report
    · rintro rfl
      exact reserved (by decide)
    · rintro rfl
      exact reserved (by decide)

theorem setClients (sound : d.Sound) (clients : Table String Json) : (d.setClients clients).Sound :=
  sound.put (by decide) _

theorem distinct (sound : d.Sound) : (d.members.map (·.1)).Nodup := by
  simp only [members, List.map_cons, List.nodup_cons, List.mem_cons, List.mem_map, not_or, not_exists, not_and]
  exact ⟨⟨by decide, fun e member => (sound.apart e member).1⟩, fun e member => (sound.apart e member).2,
    sound.ascending.nodup⟩

theorem members_perm (sound : d.Sound) : (Table.ofList d.members).entries.Perm d.members :=
  Table.ofList_perm sound.distinct

/-- No report takes the place of a fixed member, neither on the way out nor on the way back. -/
theorem ofJson?_json (sound : d.Sound) : ofJson? d.json = some d := by
  -- The value has the members in another order, so each filter finds the same ones, and those that are left ascend.
  have keeps (keep : String × Json → Bool) :
      ((Table.ofList d.members).entries.filter keep).Perm (d.members.filter keep) := sound.members_perm.filter keep
  have names : d.members.filter (·.1 == "name") = [("name", .text d.name)] := by
    have others : d.reports.entries.filter (·.1 == "name") = [] :=
      List.filter_eq_nil_iff.mpr fun e member => by simpa using (sound.apart e member).1
    simp [members, others]
  have states : d.members.filter (·.1 == "state") = [("state", .text d.state)] := by
    have others : d.reports.entries.filter (·.1 == "state") = [] :=
      List.filter_eq_nil_iff.mpr fun e member => by simpa using (sound.apart e member).2
    simp [members, others]
  have rest : d.members.filter (fun m => m.1 != "name" && m.1 != "state") = d.reports.entries := by
    have all : d.reports.entries.filter (fun m => m.1 != "name" && m.1 != "state") = d.reports.entries :=
      List.filter_eq_self.mpr fun e member => by simpa using sound.apart e member
    simp [members, all]
  have read : (Table.ofList d.members).entries.filter (fun m => m.1 != "name" && m.1 != "state") = d.reports.entries :=
    Table.Ascending.eq_of_perm ((Table.ascending_ofList d.members).sublist List.filter_sublist) sound.ascending
      ((keeps _).trans (.of_eq rest))
  have reports : Table.ofList d.reports.entries = d.reports := congrArg Table.mk (Table.entries_ofList sound.ascending)
  have name := List.perm_singleton.mp (names ▸ keeps _)
  have state := List.perm_singleton.mp (states ▸ keeps _)
  simp only [ofJson?, json, ofMembers?, name, state, read, reports]

end Sound

theorem Built.sound {d : Document} (built : Built d) : d.Sound := by
  induction built with
  | new state => exact .new state
  | insert _ key report ih => exact ih.insert key report
  | setClients _ clients ih => exact ih.setClients clients

/-- The members of the value are the fixed ones and the reports. -/
theorem Sound.mem_json_iff {d : Document} (sound : d.Sound) {key : String} {value : Json} :
    (key, value) ∈ (Table.ofList d.members).entries ↔
      key = "name" ∧ value = .text d.name ∨ key = "state" ∧ value = .text d.state ∨
        d.reports.find? key = some value := by
  rw [sound.members_perm.mem_iff, Table.find?_eq_some_iff sound.ascending, members, List.mem_cons, List.mem_cons,
    Prod.mk.injEq, Prod.mk.injEq]

/-- The document of some reports, added in order. -/
def ofReports (state : String) (reports : List (String × Json)) : Document :=
  reports.foldl (fun d r => (d.insert r.1 r.2).2) (.new state)

section Reports

variable (state : String) (reports : List (String × Json))

theorem ofReports_concat (r : String × Json) :
    ofReports state (reports ++ [r]) = ((ofReports state reports).insert r.1 r.2).2 := by
  rw [ofReports, List.foldl_append]
  rfl

theorem built_ofReports : Built (ofReports state reports) := by
  induction reports using List.reverseRecOn with
  | nil => exact .new state
  | append_singleton earlier r ih =>
    rw [ofReports_concat]
    exact ih.insert r.1 r.2

theorem insert_fixed (d : Document) (key : String) (report : Json) :
    (d.insert key report).2.name = d.name ∧ (d.insert key report).2.state = d.state := by
  unfold insert
  split <;> exact ⟨rfl, rfl⟩

theorem ofReports_fixed : (ofReports state reports).name = rigName ∧ (ofReports state reports).state = state := by
  induction reports using List.reverseRecOn with
  | nil => exact ⟨rfl, rfl⟩
  | append_singleton earlier r ih =>
    obtain ⟨name, phase⟩ := insert_fixed (ofReports state earlier) r.1 r.2
    rw [ofReports_concat, name, phase]
    exact ih

/-- Of the reports of a name the last is held, unless the name is reserved. -/
theorem find?_ofReports (key : String) :
    (ofReports state reports).reports.find? key = if key ∈ reservedKeys then none else lastReport? reports key := by
  induction reports using List.reverseRecOn with
  | nil => exact (ite_self none).symm
  | append_singleton earlier r ih =>
    rw [ofReports_concat, lastReport?_concat]
    by_cases reserved : r.1 ∈ reservedKeys
    · rw [insert_of_reserved reserved, ih]
      by_cases refused : key ∈ reservedKeys
      · rw [if_pos refused, if_pos refused]
      · have other : r.1 ≠ key := fun same => refused (same ▸ reserved)
        rw [if_neg refused, if_neg refused, if_neg other]
    · rw [insert_of_free reserved]
      by_cases here : r.1 = key
      · subst here
        rw [if_neg reserved, if_pos rfl]
        exact Table.find?_insert_self ..
      · rw [if_neg here, ← ih]
        exact Table.find?_insert_of_ne _ (Ne.symm here) _

end Reports

end Document

/-- What is attached has a table of clients with the capabilities that each of them declares. -/
theorem mem_clients_iff {ρ : Type} (handles : List (Handle ρ)) {name : String} {c : Json} :
    (name, c) ∈ (Table.ofList ((Registry.attachAll handles).attached.map fun e => (e.1, e.2.json))).entries ↔
      ∃ declared, (name, declared) ∈ (Registry.attachAll handles).attached ∧ c = declared.json := by
  have distinct : (((Registry.attachAll handles).attached.map fun e => (e.1, e.2.json)).map (·.1)).Nodup := by
    rw [Registry.attachAll_eq, Registry.ofAccepted, List.map_map, List.map_map]
    exact Handle.nodup_firsts handles
  rw [(Table.ofList_perm distinct).mem_iff, List.mem_map]
  constructor
  · rintro ⟨⟨_, declared⟩, member, same⟩
    cases same
    exact ⟨declared, member, rfl⟩
  · rintro ⟨declared, member, rfl⟩
    exact ⟨(name, declared), member, rfl⟩

/-- The keys of a board are the name of the rig, the phase, the clients attached with what each of them declares, and of
each name that is not reserved the report of its last reporter; each of them stands once. -/
theorem board_members {ρ : Type} (phase : Phase) (reports : List (String × Json)) (handles : List (Handle ρ)) :
    ∃ members clients, (board phase reports (Registry.attachAll handles).attached).json = .object members ∧
      Table.Ascending members ∧ Table.Ascending clients ∧
      (∀ name c, (name, c) ∈ clients ↔
        ∃ declared, (name, declared) ∈ (Registry.attachAll handles).attached ∧ c = declared.json) ∧
      ∀ key value, (key, value) ∈ members ↔
        key = "name" ∧ value = .text rigName ∨ key = "state" ∧ value = .text phase.name ∨
          key = clientsKey ∧ value = .object clients ∨
            key ∉ reservedKeys ∧ lastReport? reports key = some value := by
  let clients := Table.ofList ((Registry.attachAll handles).attached.map fun e => (e.1, e.2.json))
  have sound := ((Document.built_ofReports phase.name reports).setClients clients).sound
  obtain ⟨name, state⟩ := Document.ofReports_fixed phase.name reports
  have fixed : clientsKey ∈ reservedKeys := by decide
  refine ⟨_, clients.entries, rfl, Table.ascending_ofList _, Table.ascending_ofList _,
    fun _ _ => mem_clients_iff handles, fun key value => ?_⟩
  refine sound.mem_json_iff.trans ?_
  simp only [Document.setClients, name, state]
  refine or_congr_right (or_congr_right ?_)
  by_cases here : key = clientsKey
  · subst here
    rw [Table.find?_insert_self]
    simp [fixed, eq_comm]
  · rw [Table.find?_insert_of_ne _ here, Document.find?_ofReports]
    by_cases reserved : key ∈ reservedKeys <;> simp [here, reserved]

/-- Whatever is attached and whatever the reporters are called, the value of the board has the name of the rig, the phase,
the clients attached with what each of them declares, and for each name that is not reserved the report of its last
reporter, those that are attached coming after the others; each key stands once. Of every document that is put together
in any way, a report is refused with nothing changed exactly if its key is reserved, and its value is read back to the
document it was. -/
theorem documents_intact :
    (∀ (ρ : Type) (phase : Phase) (handles : List (Handle ρ)) (core : List (String × Json)) (nameOf : ρ → String)
        (reportOf : ρ → Json),
      let registry := Registry.attachAll handles
      let reports := core ++ registry.reporters.map fun r => (nameOf r, reportOf r)
      ∃ members clients, (board phase reports registry.attached).json = .object members ∧
        Table.Ascending members ∧ Table.Ascending clients ∧
        (∀ name c, (name, c) ∈ clients ↔
          ∃ declared, (name, declared) ∈ registry.attached ∧ c = declared.json) ∧
        ∀ key value, (key, value) ∈ members ↔
          key = "name" ∧ value = .text rigName ∨ key = "state" ∧ value = .text phase.name ∨
            key = clientsKey ∧ value = .object clients ∨
              key ∉ reservedKeys ∧ lastReport? reports key = some value) ∧
    ∀ d, Document.Built d →
      (∀ key report, ((d.insert key report).1 = false ↔ key ∈ reservedKeys) ∧
        (key ∈ reservedKeys → (d.insert key report).2 = d) ∧
        (key ∉ reservedKeys → (d.insert key report).2.reports.find? key = some report)) ∧
      Document.ofJson? d.json = some d := by
  refine ⟨fun _ phase handles _ _ _ => board_members phase _ handles, fun d built => ⟨fun key report => ?_, ?_⟩⟩
  · refine ⟨Document.insert_eq_false_iff, fun reserved => ?_, fun free => ?_⟩
    · rw [Document.insert_of_reserved reserved]
    · rw [Document.insert_of_free free]
      exact Table.find?_insert_self ..
  · exact built.sound.ofJson?_json

/-- A reporter that takes the key of the phase, and one that reports twice. -/
def crowdedReports : List (String × Json) :=
  [("panel", .nat 1), ("state", .text "BROKEN"), ("panel", .object [("leds", .object [])]), ("clients", .null)]

theorem documents_intact_crowded :
    let d := (Document.ofReports "IDLE" crowdedReports).setClients (.ofList [("panel", .bool true)])
    d.Built ∧
      d.json = .object [("clients", .object [("panel", .bool true)]), ("name", .text "ScanRig"),
        ("panel", .object [("leds", .object [])]), ("state", .text "IDLE")] ∧
      d.insert "state" (.text "BROKEN") = (false, d) ∧ Document.ofJson? d.json = some d := by
  intro d
  have built : d.Built := (Document.built_ofReports "IDLE" crowdedReports).setClients _
  obtain ⟨refusals, read⟩ := documents_intact.2 d built
  obtain ⟨refused, unchanged, -⟩ := refusals "state" (.text "BROKEN")
  have reserved : "state" ∈ reservedKeys := by decide
  exact ⟨built, rfl, Prod.ext (refused.mpr reserved) (unchanged reserved), read⟩

end CaptureRig.Status
