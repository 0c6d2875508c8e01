import CaptureRig.Proofs.Storage.Passage

namespace CaptureRig

open Storage

/-- A station at work, with the notes of those before it. -/
structure Situation where
  told : List (Call Instrument Chunk.Dump)
  station : Station

def Situation.calls (x : Situation) : List (Call Instrument Chunk.Dump) := x.told ++ x.station.calls

/-- What can happen from a situation on: events at the station, and its replacement by a fresh one that finds nothing but
the storage as it was left. -/
inductive Campaign (root : String) (x : Situation) : Situation → Prop
  | start : Campaign root x x
  | event {y : Situation} {e s} (campaign : Campaign root x y) (permitted : Rig.Permitted root y.station e)
      (now : y.station.happen Instruments.equipment Intake.act e = .ok s) : Campaign root x { y with station := s }
  | restart {y : Situation} {params indicator} {instruments : Instruments} (campaign : Campaign root x y)
      (medium : instruments.medium = { root }) (free : instruments.fixedDirs = none) :
      Campaign root x ⟨y.calls, Rig.fresh params indicator instruments y.station.files⟩

theorem Call.sessions_append {ρ δ : Type} (calls more : List (Call ρ δ)) :
    Call.sessions (calls ++ more) = Call.sessions calls ++ Call.sessions more := List.filterMap_append

theorem Call.filings_append {ρ : Type} (calls more : List (Call ρ Chunk.Dump)) :
    Call.filings (calls ++ more) = Call.filings calls ++ Call.filings more := List.filterMap_append

namespace Estate

/-- The estate of a station that so many sessions and some dumps came before. -/
structure Held (root : String) (k : Nat) (past : List Filing) (e : Estate) : Prop where
  site : e.root = root
  fixed : e.fixed = none
  real : e.real = true
  sessions : e.sessions = (e.session.map (·.dirs)).toList
  own : ∀ s, e.session = some s → s.dirs = sessionDirs root k
  counts : Counts e.files root (k + e.sessions.length)
  /-- Every dump so far belongs to a session before, or to a commit before. -/
  before : ∀ f ∈ past ++ e.filings, ∃ id, f.Of root id ∧ (id < k ∨ id = k ∧ f.index < e.tries)

variable {root : String} {k : Nat} {past : List Filing} {e e' : Estate}

/-- What is written by a commit of the present session, the next to be tried. -/
theorem Held.of_wrote (held : Held root k past e) {session : ScanSession} (present : e.session = some session)
    {mode : ScanMode} {f : Filing} (own : f.dir = session.dir mode ∧ f.index = e.tries ∧ f.isRecorded) :
    f.Of root k := by
  refine ⟨⟨mode, ?_⟩, own.2.2⟩
  rw [own.1, session.dir_eq, held.own session present]

theorem Held.passes (named : root ≠ "") (passes : e.Passes e') (held : Held root k past e) :
    Held root k past e' := by
  have site := held.site
  subst site
  cases passes with
  | same => exact held
  | @granted dirs t free done =>
    have none : e.sessions = [] := by
      rw [held.sessions, free]
      rfl
    have counts := held.counts
    rw [none] at counts
    cases done k counts with
    | granted _ counts =>
      refine { held with sessions := ?_, own := ?_, counts := ?_ }
      · rw [none]
        rfl
      · intro s begun
        cases begun
        rfl
      · rw [none]
        exact counts
  | denied failed =>
    obtain ⟨error, attempted⟩ := failed _ held.counts
    cases attempted with
    | failed _ counts => exact { held with counts }
  | @tried mode session session' _ present same wrote =>
    have own := held.own session present
    obtain ⟨new, files, filed, away⟩ := wrote
    have ours : ∀ f ∈ new, f.Of e.root k := fun f member => held.of_wrote present (filed f member)
    refine { held with sessions := ?_, own := ?_, counts := ?_, before := ?_ }
    · rw [Option.map_some, same, held.sessions, present]
      rfl
    · intro s begun
      cases begun
      exact same.trans own
    · refine held.counts.of_same (away _ fun f member manifest => ?_)
      exact (ours f member).ne_manifest named manifest rfl
    · intro f member
      rw [← List.append_assoc] at member
      rcases List.mem_append.mp member with old | now
      · obtain ⟨id, of, earlier⟩ := held.before f old
        exact ⟨id, of, earlier.imp_right fun ⟨this, less⟩ => ⟨this, Nat.lt_succ_of_lt less⟩⟩
      · exact ⟨k, ours f now, Or.inr ⟨rfl, (filed f now).2.1 ▸ Nat.lt_succ_self _⟩⟩
  | beside aside => exact { held with counts := held.counts.of_same (aside _ (Or.inl rfl)) }

/-- Some dumps have been kept apart from all later ones, and the files of them that were in a tree are as they were. -/
structure Guards (kept : List Filing) (t : Tree) (past : List Filing) (e : Estate) : Prop where
  apart : ∃ more, past ++ e.filings = kept ++ more ∧ ∀ f ∈ kept, ∀ g ∈ more, ∀ p ∈ f.places, p ∉ g.places
  safe : ∀ f ∈ kept, ∀ p ∈ f.places, ∀ n, t.node? p = some n → e.files.node? p = some n

variable {kept : List Filing} {t : Tree}

theorem Guards.passes (named : root ≠ "") (held : Held root k past e) (passes : e.Passes e')
    (guards : Guards kept t past e) : Guards kept t past e' := by
  have site := held.site
  subst site
  obtain ⟨more, split, apart⟩ := guards.apart
  have before : ∀ f ∈ kept, ∃ id, f.Of e.root id ∧ (id < k ∨ id = k ∧ f.index < e.tries) := by
    intro f member
    exact held.before f (split ▸ List.mem_append_left _ member)
  cases passes with
  | same => exact guards
  | granted _ done =>
    refine { guards with safe := ?_ }
    intro f member p place n found
    obtain ⟨id, of, _⟩ := before f member
    cases done _ held.counts with
    | granted stay _ => exact stay p n (of.ne_manifest named place) (guards.safe f member p place n found)
  | denied failed =>
    refine { guards with safe := ?_ }
    intro f member p place n found
    obtain ⟨id, of, _⟩ := before f member
    obtain ⟨error, attempted⟩ := failed _ held.counts
    cases attempted with
    | failed stay _ => exact stay p n (of.ne_manifest named place) (guards.safe f member p place n found)
  | tried present same wrote =>
    obtain ⟨new, files, filed, away⟩ := wrote
    -- what is written now is of the present session and of a number that none before had
    have fresh : ∀ f ∈ kept, ∀ g ∈ new, ∀ p ∈ f.places, p ∉ g.places := by
      intro f member g now p place shared
      obtain ⟨id, of, earlier⟩ := before f member
      obtain ⟨this, number⟩ := of.unique (held.of_wrote present (filed g now)) named place shared
      rw [(filed g now).2.1] at number
      omega
    refine ⟨⟨more ++ new, ?_, ?_⟩, ?_⟩
    · rw [← List.append_assoc, split, List.append_assoc]
    · intro f member g later
      exact (List.mem_append.mp later).elim (apart f member g) (fresh f member g)
    · intro f member p place n found
      rw [away p fun g now => fresh f member g now p place]
      exact guards.safe f member p place n found
  | beside aside =>
    refine { guards with safe := ?_ }
    intro f member p place n found
    obtain ⟨id, of, _⟩ := before f member
    obtain ⟨mode, file, below, _⟩ := of.place named place
    rw [aside p (Or.inr ⟨mode, id, below ▸ List.prefix_append ..⟩)]
    exact guards.safe f member p place n found

/-- A station that takes over finds one more session before it, if there was one. -/
theorem Held.succeed (held : Held root k past e) (untried : e.session = none → e.tries = 0) {e₀ : Estate}
    (site : e₀.root = root) (fixed : e₀.fixed = none) (real : e₀.real = true) (session : e₀.session = none)
    (sessions : e₀.sessions = []) (filings : e₀.filings = []) (files : e₀.files = e.files) :
    Held root (k + e.sessions.length) (past ++ e.filings) e₀ where
  site := site
  fixed := fixed
  real := real
  sessions := by rw [sessions, session]; rfl
  own s begun := by rw [session] at begun; cases begun
  counts := by
    rw [sessions, files]
    exact held.counts
  before f member := by
    rw [filings, List.append_nil] at member
    obtain ⟨id, of, earlier⟩ := held.before f member
    refine ⟨id, of, Or.inl ?_⟩
    have sessions := held.sessions
    cases present : e.session with
    | none =>
      rw [untried present] at earlier
      omega
    | some s =>
      rw [present] at sessions
      have one : e.sessions.length = 1 := by rw [sessions]; rfl
      omega

/-- The sessions so far have the numbers that follow those before. -/
theorem Held.range (held : Held root k past e) :
    (List.range k).map (sessionDirs root) ++ e.sessions = (List.range (k + e.sessions.length)).map (sessionDirs root) := by
  cases present : e.session with
  | none =>
    have none : e.sessions = [] := by rw [held.sessions, present]; rfl
    rw [none, List.append_nil, List.length_nil, Nat.add_zero]
  | some s =>
    have one : e.sessions = [sessionDirs root k] := by
      rw [held.sessions, present, Option.map_some, held.own s present]
      rfl
    rw [one, List.length_singleton, List.range_succ, List.map_append, List.map_singleton]

end Estate

/-- A situation in the middle of a campaign. -/
structure Situation.Orderly (root : String) (kept : List Filing) (t : Tree) (x : Situation) : Prop where
  numbered : Ledger.Numbered x.station.ledger
  told : Call.sessions x.told = (List.range (Call.sessions x.told).length).map (sessionDirs root)
  held : x.station.estate.Held root (Call.sessions x.told).length (Call.filings x.told)
  guards : x.station.estate.Guards kept t (Call.filings x.told)

theorem Rig.estate_fresh {root : String} (params : ScanParams) (indicator : Bool) {instruments : Instruments}
    (medium : instruments.medium = { root }) (free : instruments.fixedDirs = none) (files : Tree) :
    (Rig.fresh params indicator instruments files : Station).estate =
      { session := none, root, fixed := none, real := true, files, sessions := [], filings := [], tries := 0 } := by
  simp [estate, fresh, Instruments.site, medium, free, Call.sessions, Call.filings, commitCount]

namespace Situation

variable {root : String} {kept : List Filing} {t : Tree} {x y : Situation}

theorem Orderly.sessions_eq (orderly : Orderly root kept t x) :
    Call.sessions x.calls = (List.range (Call.sessions x.calls).length).map (sessionDirs root) := by
  have all := orderly.held.range
  rw [← orderly.told] at all
  rw [calls, Call.sessions_append, List.length_append]
  exact all

/-- From any point of a campaign on, what has been written by then is guarded. -/
theorem Orderly.guard (orderly : Orderly root kept t x) :
    Orderly root (Call.filings x.calls) x.station.files x where
  numbered := orderly.numbered
  told := orderly.told
  held := orderly.held
  guards :=
    { apart := ⟨[], by rw [calls, Call.filings_append, List.append_nil]; rfl, fun _ _ _ none => by cases none⟩
      safe := fun _ _ _ _ _ found => found }

theorem Orderly.event {e : Event Instrument Intake} {s : Station} (named : root ≠ "") (orderly : Orderly root kept t x)
    (permitted : Rig.Permitted root x.station e)
    (now : x.station.happen Instruments.equipment Intake.act e = .ok s) : Orderly root kept t { x with station := s } := by
  have inherited : Rig.Inherited fun e : Estate =>
      e.Held root (Call.sessions x.told).length (Call.filings x.told) ∧ e.Guards kept t (Call.filings x.told) :=
    { fixed := fun both => both.1.fixed
      real := fun both => both.1.real
      passes := fun passes both => ⟨both.1.passes named passes, both.2.passes named both.1 passes⟩ }
  obtain ⟨numbered, held, guards⟩ := inherited.happen (orderly.held.site.symm ▸ permitted) now
    ⟨orderly.numbered, orderly.held, orderly.guards⟩
  exact ⟨numbered, orderly.told, held, guards⟩

theorem Orderly.restart {params : ScanParams} {indicator : Bool} {instruments : Instruments}
    (orderly : Orderly root kept t x) (medium : instruments.medium = { root }) (free : instruments.fixedDirs = none) :
    Orderly root kept t ⟨x.calls, Rig.fresh params indicator instruments x.station.files⟩ := by
  have fresh := Rig.estate_fresh params indicator medium free x.station.files
  have untried : x.station.estate.session = none → x.station.estate.tries = 0 := by
    intro none
    have trials : x.station.trials = [] := orderly.numbered.untried none
    rw [← List.length_eq_zero_iff] at trials
    exact (Call.length_trials _ _).symm.trans trials
  refine ⟨Rig.fresh_numbered .., orderly.sessions_eq, ?_, ?_⟩
  · rw [fresh, calls, Call.sessions_append, List.length_append, Call.filings_append]
    exact orderly.held.succeed untried rfl rfl rfl rfl rfl rfl rfl
  · rw [fresh, calls, Call.filings_append]
    obtain ⟨more, split, apart⟩ := orderly.guards.apart
    exact ⟨⟨more, (List.append_nil _).trans split, apart⟩, orderly.guards.safe⟩

theorem Orderly.campaign (named : root ≠ "") (campaign : Campaign root x y) (orderly : Orderly root kept t x) :
    Orderly root kept t y := by
  induction campaign with
  | start => exact orderly
  | event _ permitted now ih => exact ih.event named permitted now
  | restart _ medium free ih => exact ih.restart medium free

end Situation

/-- What has been noted in a campaign stays noted. -/
theorem Campaign.calls_prefix {root : String} {x y : Situation} (campaign : Campaign root x y) : x.calls <+: y.calls := by
  induction campaign with
  | start => exact List.prefix_rfl
  | @event y e s _ _ now ih =>
    have lasting : Rig.Lasting Instruments.equipment Intake.act fun s : Station => y.station.calls <+: s.calls :=
      Rig.noted_lasting _
    have noted := lasting.happen now List.prefix_rfl
    exact ih.trans ((List.prefix_append_right_inj _).mpr noted)
  | restart _ _ _ ih =>
    refine ih.trans ?_
    exact List.prefix_append ..

theorem Storage.ne_empty_of_writable {t : Tree} {root : String} (writable : t.isWritable root = true) : root ≠ "" := by
  rintro rfl
  have refused : t.lookup "" = .error .notFound := rfl
  simp [Tree.isWritable, refused] at writable

/-- The first station, on a storage with nothing in it. -/
theorem Situation.orderly_first {root : String} {params : ScanParams} {indicator : Bool} {instruments : Instruments}
    {files : Tree} (medium : instruments.medium = { root }) (free : instruments.fixedDirs = none)
    (empty : ∀ name below, files.node? (placeOf root ++ name :: below) = none) :
    Orderly root [] files ⟨[], Rig.fresh params indicator instruments files⟩ := by
  have fresh := Rig.estate_fresh params indicator medium free files
  refine ⟨Rig.fresh_numbered .., rfl, ?_, ?_⟩
  · rw [fresh]
    exact
      { site := rfl
        fixed := rfl
        real := rfl
        sessions := rfl
        own := fun s begun => by cases begun
        counts := .fresh rfl (empty _ _)
        before := fun f member => by cases member }
  · rw [fresh]
    exact ⟨⟨[], rfl, fun _ none => by cases none⟩, fun _ none => by cases none⟩

/-- On a storage that was empty at first the sessions of all stations are numbered from zero, in the order in which they
were allocated, and no two of their directories are the same. What has been written by any point of a campaign has its
places to itself: nothing is written there later, and every file there stays as it is. -/
theorem Campaign.committed_untouched {root : String} {params : ScanParams} {indicator : Bool} {instruments : Instruments}
    {files : Tree} (medium : instruments.medium = { root }) (free : instruments.fixedDirs = none)
    (writable : files.isWritable root = true)
    (empty : ∀ name below, files.node? (placeOf root ++ name :: below) = none) {y z : Situation}
    (first : Campaign root ⟨[], Rig.fresh params indicator instruments files⟩ y) (later : Campaign root y z) :
    (∃ n, Call.sessions z.calls = (List.range n).map (sessionDirs root)) ∧
      ((Call.sessions z.calls).flatMap SessionDirs.places).Nodup ∧
      ∃ more, z.calls = y.calls ++ more ∧
        ∀ f ∈ Call.filings y.calls, ∀ p ∈ f.places,
          (∀ g ∈ Call.filings more, p ∉ g.places) ∧
            ∀ n, y.station.files.node? p = some n → z.station.files.node? p = some n := by
  have named := ne_empty_of_writable writable
  have orderly := (Situation.orderly_first medium free empty).campaign named first
  have guarded := orderly.guard.campaign named later
  have sessions := guarded.sessions_eq
  obtain ⟨more, calls⟩ := later.calls_prefix
  obtain ⟨filings, split, apart⟩ := guarded.guards.apart
  have same : Call.filings more = filings := by
    have all : Call.filings z.calls = Call.filings y.calls ++ filings := by
      rw [← split, Situation.calls, Call.filings_append]
      rfl
    rw [← calls, Call.filings_append] at all
    exact List.append_cancel_left all
  refine ⟨⟨_, sessions⟩, ?_, more, calls.symm, ?_⟩
  · rw [sessions]
    exact places_nodup named List.nodup_range
  · intro f member p place
    refine ⟨fun g now => apart f member g (same ▸ now) p place, fun n found => ?_⟩
    exact guarded.guards.safe f member p place n found

/-- Events that leave any storage alone go on with a campaign. -/
theorem Campaign.play {root : String} {x y : Situation} {events : List (Event Instrument Intake)} {s : Station}
    (campaign : Campaign root x y) (permitted : ∀ e ∈ events, ∀ s, Rig.Permitted root s e)
    (played : y.station.play Instruments.equipment Intake.act events = .ok s) :
    Campaign root x { y with station := s } := by
  induction events generalizing y with
  | nil =>
    cases played
    exact campaign
  | cons e events ih =>
    rw [Rig.play, List.foldlM_cons] at played
    obtain ⟨next, now, rest⟩ := bind_eq_ok.mp played
    exact ih (y := { y with station := next }) (campaign.event (permitted e (List.mem_cons_self ..) _) now)
      (fun later member => permitted later (List.mem_cons_of_mem _ member)) rest

/-- A continuous scan of one chunk and a stop scan, with a sentence of the receiver in each. -/
def twoScans : List (Event Instrument Intake) :=
  [.attach (.of "gnss" { logger := true, dumpable := true } .gnss), .tick 0, .send .startScan, .tick 0,
    .input (.sentence 2 "$A"), .tick (millis 10000), .send .stopScan, .tick (millis 11000),
    .send .triggerStopScan, .tick (millis 12000), .tick (millis 17000), .input (.sentence 5 "$B"), .tick (millis 47000)]

def fieldStation (files : Tree) : Station := Rig.fresh { mandatoryClients := [] } true (.new "usb" []) files

/-- What the second of two stations finds of the first one's last chunk is what it leaves. -/
theorem Campaign.committed_untouched_restart :
    ∃ y z, Campaign "usb" ⟨[], fieldStation { entries := [(["usb"], .directory)] }⟩ y ∧ Campaign "usb" y z ∧
      (Call.filings y.calls).flatMap Filing.places =
        [["usb", "continuous_scanning_0000", "gnss0000.gnss"], ["usb", "stop_scans_0000", "gnss0002.gnss"]] ∧
      (Call.filings z.station.calls).flatMap Filing.places =
        [["usb", "continuous_scanning_0001", "gnss0000.gnss"], ["usb", "stop_scans_0001", "gnss0002.gnss"]] ∧
      z.station.files.node? ["usb", "stop_scans_0000", "gnss0002.gnss"] = some (.file (.text "5 $B\n")) ∧
      ∃ n, Call.sessions z.calls = (List.range n).map (sessionDirs "usb") := by
  have played :
      ((fieldStation { entries := [(["usb"], .directory)] }).play Instruments.equipment Intake.act twoScans >>= fun s =>
        ((fieldStation s.files).play Instruments.equipment Intake.act twoScans) >>= fun s' => pure (s, s')).toOption.map
        (fun (s, s') => ((Call.filings s.calls).flatMap Filing.places, (Call.filings s'.calls).flatMap Filing.places,
          s.files.node? ["usb", "stop_scans_0000", "gnss0002.gnss"])) =
      some ([["usb", "continuous_scanning_0000", "gnss0000.gnss"], ["usb", "stop_scans_0000", "gnss0002.gnss"]],
        [["usb", "continuous_scanning_0001", "gnss0000.gnss"], ["usb", "stop_scans_0001", "gnss0002.gnss"]],
        some (.file (.text "5 $B\n"))) := by decide +kernel
  obtain ⟨⟨s, s'⟩, whole, seen⟩ := Option.map_eq_some_iff.mp played
  obtain ⟨_, played, rest⟩ := bind_eq_ok.mp (toOption_eq_some.mp whole)
  obtain ⟨_, played', both⟩ := bind_eq_ok.mp rest
  cases pure_eq_ok.mp both
  obtain ⟨places, places', file⟩ : _ ∧ _ ∧ _ := by simpa only [Prod.mk.injEq] using seen
  have permitted : ∀ e ∈ twoScans, ∀ s, Rig.Permitted "usb" s e := by
    intro e member s
    simp only [twoScans, List.mem_cons, List.not_mem_nil, or_false] at member
    rcases member with rfl | rfl | rfl | rfl | rfl | rfl | rfl | rfl | rfl | rfl | rfl | rfl | rfl
    · intro d declared
      cases declared
      rfl
    all_goals trivial
  have first : Campaign "usb" ⟨[], fieldStation { entries := [(["usb"], .directory)] }⟩ ⟨[], s⟩ :=
    Campaign.start.play (y := ⟨[], _⟩) permitted played
  have second : Campaign "usb" ⟨[], s⟩ ⟨s.calls, s'⟩ :=
    (Campaign.start.restart rfl rfl).play (y := ⟨s.calls, fieldStation s.files⟩) permitted played'
  obtain ⟨sessions, _, more, calls, untouched⟩ := committed_untouched (by rfl) (by rfl) (by decide +kernel)
    (by intro name below; rfl) first second
  refine ⟨_, _, first, second, places, places', ?_, sessions⟩
  have written : ["usb", "stop_scans_0000", "gnss0002.gnss"] ∈ (Call.filings s.calls).flatMap Filing.places := by
    rw [places]
    decide
  obtain ⟨f, member, place⟩ := List.mem_flatMap.mp written
  exact (untouched f member _ place).2 _ file

end CaptureRig
