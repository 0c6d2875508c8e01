import CaptureRig.Proofs.Text.Lines
import CaptureRig.Proofs.Text.Utf8

namespace CaptureRig.Text

/-- A stretch of a text that comes in one piece, or is torn into pieces none of which is text. -/
structure Stretch where
  text : List Char
  torn : Bool

/-- The lines that are read of a stretch. -/
def Stretch.lines (s : Stretch) : List (List Char) := if s.torn then [] else filledLines s.text

/-- Pieces of bytes as the stretches of a text. -/
inductive Pieces : List (List UInt8) → List Stretch → Prop
  | nil : Pieces [] []
  | whole (text : List Char) {pieces stretches} (rest : Pieces pieces stretches) :
      Pieces (Utf8.encode text :: pieces) (⟨text, false⟩ :: stretches)
  | torn {part : List (List UInt8)} {text : List Char} (unreadable : ∀ piece ∈ part, Utf8.decode? piece = none)
      (together : part.flatten = Utf8.encode text) {pieces stretches} (rest : Pieces pieces stretches) :
      Pieces (part ++ pieces) (⟨text, true⟩ :: stretches)

/-- Pieces that begin inside a character are not readable up to where one ends with a character again. -/
theorem exists_torn {pieces : List (List UInt8)} (filled : ∀ piece ∈ pieces, piece ≠ []) {q : List UInt8}
    (continues : ∀ b ∈ q, Utf8.Continues b) {cs : List Char} (whole : pieces.flatten = q ++ Utf8.encode cs) :
    ∃ part rest front back, pieces = part ++ rest ∧ cs = front ++ back ∧ part.flatten = q ++ Utf8.encode front ∧
      rest.flatten = Utf8.encode back ∧ ∀ piece ∈ part, Utf8.decode? piece = none := by
  induction pieces generalizing q cs with
  | nil =>
    obtain ⟨none, empty⟩ := List.append_eq_nil_iff.mp whole.symm
    exact ⟨[], [], [], cs, rfl, rfl, by rw [none]; rfl, empty.symm, nofun⟩
  | cons piece pieces ih =>
    by_cases aligned : q = []
    · exact ⟨[], piece :: pieces, [], cs, rfl, rfl, by rw [aligned]; rfl, by rw [whole, aligned]; rfl, nofun⟩
    obtain ⟨some, others⟩ := List.forall_mem_cons.mp filled
    rw [List.flatten_cons] at whole
    -- The piece begins with a byte of the character that has been cut.
    have unreadable : Utf8.decode? piece = none := by
      obtain ⟨b, tail, rfl⟩ := List.exists_cons_of_ne_nil aligned
      obtain ⟨b', tail', rfl⟩ := List.exists_cons_of_ne_nil some
      obtain ⟨rfl, _⟩ := List.cons.inj whole
      exact Utf8.decode?_of_continues (continues _ List.mem_cons_self) tail'
    rcases List.append_eq_append_iff.mp whole with ⟨more, parts, later⟩ | ⟨start, parts, later⟩
    · have continues' : ∀ b ∈ more, Utf8.Continues b := fun b member =>
        continues b (parts ▸ List.mem_append_right _ member)
      obtain ⟨part, rest, front, back, rfl, rfl, here, after, unread⟩ := ih others continues' later
      refine ⟨piece :: part, rest, front, back, rfl, rfl, ?_, after, List.forall_mem_cons.mpr ⟨unreadable, unread⟩⟩
      rw [List.flatten_cons, here, parts, List.append_assoc]
    · cases Utf8.cut_of_append later.symm with
      | between front back text left right =>
        refine ⟨[piece], pieces, front, back, rfl, text, ?_, right, by simpa using unreadable⟩
        rw [List.flatten_singleton, parts, left]
      | inside front c back p q' spelled here more text left right =>
        obtain ⟨part, rest, front', back', rfl, rfl, torn, after, unread⟩ :=
          ih others (Utf8.continues_of_cut spelled here) right
        refine ⟨piece :: part, rest, front ++ c :: front', back', rfl, ?_, ?_, after,
          List.forall_mem_cons.mpr ⟨unreadable, unread⟩⟩
        · rw [text, List.append_assoc, List.cons_append]
        · rw [List.flatten_cons, torn, parts, left, Utf8.encode_append, Utf8.encode_cons, spelled]
          simp only [List.append_assoc]

/-- Any pieces of the bytes of a text are the stretches of it. -/
theorem exists_pieces {pieces : List (List UInt8)} (filled : ∀ piece ∈ pieces, piece ≠ []) {cs : List Char}
    (whole : pieces.flatten = Utf8.encode cs) :
    ∃ stretches, Pieces pieces stretches ∧ stretches.flatMap (·.text) = cs := by
  match pieces with
  | [] =>
    have none : cs = [] := by
      by_contra some
      exact Utf8.encode_ne_nil some whole.symm
    exact ⟨[], .nil, none.symm⟩
  | piece :: pieces =>
    obtain ⟨some, others⟩ := List.forall_mem_cons.mp filled
    cases Utf8.cut_of_append whole with
    | between front back text left right =>
      obtain ⟨stretches, pieced, same⟩ := exists_pieces others right
      exact ⟨⟨front, false⟩ :: stretches, left ▸ .whole front pieced, by rw [List.flatMap_cons, same, text]⟩
    | inside front c back p q spelled here more text left right =>
      obtain ⟨part, rest, front', back', parts, text', torn, after, unread⟩ :=
        exists_torn others (Utf8.continues_of_cut spelled here) right
      have shorter : rest.length < pieces.length + 1 := by
        rw [parts, List.length_append]
        omega
      have remaining : ∀ piece ∈ rest, piece ≠ [] := fun piece member =>
        others piece (parts ▸ List.mem_append_right part member)
      obtain ⟨stretches, pieced, same⟩ := exists_pieces remaining after
      have unreadable : ∀ q ∈ piece :: part, Utf8.decode? q = none :=
        List.forall_mem_cons.mpr ⟨left ▸ Utf8.decode?_of_inside front spelled here more, unread⟩
      refine ⟨⟨front ++ c :: front', true⟩ :: stretches, parts ▸ .torn unreadable ?_ pieced, ?_⟩
      · rw [List.flatten_cons, torn, left, Utf8.encode_append, Utf8.encode_cons, spelled]
        simp only [List.append_assoc]
      · rw [List.flatMap_cons, same, text, text']
        simp only [List.append_assoc, List.cons_append]
termination_by pieces.length

section Lost

variable {stretches : List Stretch}

theorem Stretch.solids_lines (s : Stretch) :
    solids s.lines.flatten = if s.torn then 0 else solids s.text := by
  unfold lines
  split
  · rfl
  · exact solids_filledLines s.text

theorem solids_read_le (stretches : List Stretch) :
    solids (stretches.flatMap Stretch.lines).flatten ≤ solids (stretches.flatMap (·.text)) := by
  induction stretches with
  | nil => exact Nat.le_refl 0
  | cons s rest ih =>
    have here := s.solids_lines
    rw [List.flatMap_cons, List.flatten_append, List.flatMap_cons, solids_append, solids_append]
    split at here <;> omega

/-- If as much is read as there is, only blanks are lost. -/
theorem blank_of_solids (all : solids (stretches.flatMap (·.text)) ≤ solids (stretches.flatMap Stretch.lines).flatten) :
    ∀ s ∈ stretches, s.torn = true → ∀ c ∈ s.text, isBlank c = true := by
  induction stretches with
  | nil => exact nofun
  | cons s rest ih =>
    have here := s.solids_lines
    have later := solids_read_le rest
    rw [List.flatMap_cons, List.flatMap_cons, List.flatten_append, solids_append, solids_append] at all
    refine List.forall_mem_cons.mpr ⟨fun torn => ?_, ih ?_⟩
    · rw [if_pos torn] at here
      have none : solids s.text = 0 := by omega
      simpa [solids] using none
    · split at here <;> omega

theorem flatMap_lines (blank : ∀ s ∈ stretches, s.torn = true → ∀ c ∈ s.text, isBlank c = true) :
    stretches.flatMap Stretch.lines = (stretches.map (·.text)).flatMap filledLines := by
  rw [List.flatMap_map]
  refine List.flatMap_congr fun s member => ?_
  unfold Stretch.lines
  split
  · rename_i torn
    exact (filledLines_of_blank (blank s member torn)).symm
  · rfl

/-- The lines that are read of a text in stretches are those of the text exactly if nothing but blanks is lost and no line
is parted between two stretches. -/
theorem flatMap_lines_iff :
    stretches.flatMap Stretch.lines = filledLines (stretches.flatMap (·.text)) ↔
      (∀ s ∈ stretches, s.torn = true → ∀ c ∈ s.text, isBlank c = true) ∧
        ∀ front back, stretches = front ++ back → ¬PartsLine (front.flatMap (·.text)) (back.flatMap (·.text)) := by
  have parted (blank : ∀ s ∈ stretches, s.torn = true → ∀ c ∈ s.text, isBlank c = true) :
      stretches.flatMap Stretch.lines = filledLines (stretches.flatMap (·.text)) ↔
        ∀ front back, stretches = front ++ back → ¬PartsLine (front.flatMap (·.text)) (back.flatMap (·.text)) := by
    have text : stretches.flatMap (·.text) = (stretches.map (·.text)).flatten := List.flatMap_def
    rw [flatMap_lines blank, text, flatMap_filledLines_iff]
    constructor
    · rintro whole front back rfl
      exact whole (front.map (·.text)) (back.map (·.text)) (List.map_append ..)
    · intro whole front' back' parts
      obtain ⟨front, back, same, rfl, rfl⟩ := List.map_eq_append_iff.mp parts
      exact whole front back same
  constructor
  · intro same
    have all : solids (stretches.flatMap (·.text)) ≤ solids (stretches.flatMap Stretch.lines).flatten := by
      rw [same, solids_filledLines]
    have blank := blank_of_solids all
    exact ⟨blank, (parted blank).mp same⟩
  · rintro ⟨blank, whole⟩
    exact (parted blank).mpr whole

end Lost

end CaptureRig.Text
