import CaptureRig.Proofs.Storage.Place
import CaptureRig.Proofs.Text.Numeral

namespace CaptureRig.Text

section Trimmed

theorem dropWhile_of_all_blank {cs : List Char} (blank : ∀ c ∈ cs, isBlank c = true) : cs.dropWhile isBlank = [] := by
  have none : (cs ++ []).dropWhile isBlank = [] := dropWhile_of_blank blank (by simp)
  rwa [List.append_nil] at none

theorem dropEnd_append_blank {after : List Char} (blank : ∀ c ∈ after, isBlank c = true) (cs : List Char) :
    dropEnd isBlank (cs ++ after) = dropEnd isBlank cs := by
  have skipped : after.reverse.dropWhile isBlank = [] :=
    dropWhile_of_all_blank fun c member => blank c (List.mem_reverse.mp member)
  rw [dropEnd, List.reverse_append, List.dropWhile_append, skipped]
  rfl

theorem trimmed_append_blank {after : List Char} (blank : ∀ c ∈ after, isBlank c = true) (cs : List Char) :
    trimmed (cs ++ after) = trimmed cs := by
  rw [trimmed, List.dropWhile_append]
  split
  · rename_i none
    rw [dropWhile_of_all_blank blank, trimmed, List.isEmpty_iff.mp none]
  · rw [dropEnd_append_blank blank, trimmed]

theorem trimmed_blank_append {before : List Char} (blank : ∀ c ∈ before, isBlank c = true) (cs : List Char) :
    trimmed (before ++ cs) = trimmed cs := by
  have skipped := dropWhile_of_all_blank blank
  rw [trimmed, List.dropWhile_append, skipped]
  rfl

/-- Nothing is left exactly of what is all blank. -/
theorem trimmed_eq_nil_iff {cs : List Char} : trimmed cs = [] ↔ ∀ c ∈ cs, isBlank c = true := by
  constructor
  · intro none
    obtain ⟨before, after, whole, blankBefore, blankAfter⟩ := trimmed_split cs
    rw [none, List.append_nil] at whole
    intro c member
    rw [whole] at member
    exact (List.mem_append.mp member).elim (blankBefore c) (blankAfter c)
  · intro blank
    rw [trimmed, dropWhile_of_all_blank blank]
    rfl

theorem exists_filled {cs : List Char} (filled : trimmed cs ≠ []) :
    ∃ before c after, cs = before ++ c :: after ∧ isBlank c = false := by
  have some : ∃ c ∈ cs, isBlank c = false := by
    by_contra none
    refine filled (trimmed_eq_nil_iff.mpr fun c member => ?_)
    by_contra solid
    exact none ⟨c, member, eq_false_of_ne_true solid⟩
  obtain ⟨c, member, solid⟩ := some
  obtain ⟨before, after, parts⟩ := List.append_of_mem member
  exact ⟨before, c, after, parts, solid⟩

theorem mem_of_mem_trimmed {cs : List Char} {c : Char} (member : c ∈ trimmed cs) : c ∈ cs := by
  obtain ⟨before, after, whole, _, _⟩ := trimmed_split cs
  rw [whole]
  exact List.mem_append_left _ (List.mem_append_right _ member)

/-- A newline at the end of a text goes with the blanks there. -/
theorem newline_not_mem_trimmed {cs : List Char} (single : '\n' ∉ cs.dropLast) : '\n' ∉ trimmed cs := by
  obtain rfl | ⟨front, c, rfl⟩ := List.eq_nil_or_concat' cs
  · exact List.not_mem_nil
  rw [List.dropLast_concat] at single
  by_cases ends : c = '\n'
  · have bare : trimmed (front ++ [c]) = trimmed front := trimmed_append_blank (List.forall_mem_singleton.mpr (ends ▸ rfl)) front
    rw [bare]
    exact fun member => single (mem_of_mem_trimmed member)
  · intro member
    rcases List.mem_append.mp (mem_of_mem_trimmed member) with early | last
    · exact single early
    · exact ends (List.mem_singleton.mp last).symm

end Trimmed

/-- The lines of a text without the blanks around them, as far as anything is left of them. -/
def filledLines (cs : List Char) : List (List Char) :=
  ((split (· == '\n') cs).map trimmed).filter (· ≠ [])

theorem filledLines_line {cs : List Char} (single : '\n' ∉ cs) :
    filledLines cs = if trimmed cs = [] then [] else [trimmed cs] := by
  have whole : split (· == '\n') cs = [cs] :=
    split_of_none fun c member => beq_eq_false_iff_ne.mpr fun ends => single (ends ▸ member)
  rw [filledLines, whole, List.map_singleton, List.filter_singleton]
  by_cases none : trimmed cs = []
  · simp [none]
  · simp [none]

theorem filledLines_append_newline (before after : List Char) :
    filledLines (before ++ '\n' :: after) = filledLines before ++ filledLines after := by
  rw [filledLines, split_append rfl, List.map_append, List.filter_append]
  rfl

/-- A line with at most the newline at its end. -/
theorem filledLines_piece {cs : List Char} (single : '\n' ∉ cs.dropLast) :
    filledLines cs = if trimmed cs = [] then [] else [trimmed cs] := by
  obtain rfl | ⟨line, c, rfl⟩ := List.eq_nil_or_concat' cs
  · rfl
  rw [List.dropLast_concat] at single
  by_cases ends : c = '\n'
  · have bare : trimmed (line ++ ['\n']) = trimmed line := trimmed_append_blank (List.forall_mem_singleton.mpr rfl) line
    rw [ends, filledLines_append_newline, filledLines_line single, bare]
    exact List.append_nil _
  · refine filledLines_line fun member => ?_
    rcases List.mem_append.mp member with inside | last
    · exact single inside
    · exact ends (List.mem_singleton.mp last).symm

theorem filledLines_of_blank {cs : List Char} (blank : ∀ c ∈ cs, isBlank c = true) : filledLines cs = [] := by
  refine List.filter_eq_nil_iff.mpr fun line member => ?_
  obtain ⟨piece, inside, rfl⟩ := List.mem_map.mp member
  have none : trimmed piece = [] := trimmed_eq_nil_iff.mpr fun c here => blank c (mem_of_mem_split inside here)
  simp [none]

/-- The number of characters that are no blanks. -/
def solids (cs : List Char) : Nat := cs.countP fun c => !isBlank c

theorem solids_append (cs ds : List Char) : solids (cs ++ ds) = solids cs + solids ds := List.countP_append

theorem solids_of_blank {cs : List Char} (blank : ∀ c ∈ cs, isBlank c = true) : solids cs = 0 :=
  List.countP_eq_zero.mpr fun c member => by simp [blank c member]

theorem solids_trimmed (cs : List Char) : solids (trimmed cs) = solids cs := by
  obtain ⟨before, after, whole, blankBefore, blankAfter⟩ := trimmed_split cs
  have parts := congrArg solids whole
  rw [solids_append, solids_append, solids_of_blank blankBefore, solids_of_blank blankAfter] at parts
  omega

/-- Only blanks stand outside of the lines of a text. -/
theorem solids_filledLines (cs : List Char) : solids (filledLines cs).flatten = solids cs := by
  by_cases ends : '\n' ∈ cs
  · obtain ⟨line, rest, parts, single⟩ := List.eq_append_cons_of_mem ends
    have shorter : rest.length < cs.length := by
      rw [parts, List.length_append, List.length_cons]
      omega
    have later := solids_filledLines rest
    have newline : solids ('\n' :: rest) = solids rest := List.countP_cons_of_neg (by decide)
    have here : solids (filledLines line).flatten = solids line := by
      rw [filledLines_line single, ← solids_trimmed line]
      split
      · rename_i none
        rw [none]
        rfl
      · rw [List.flatten_singleton]
    rw [parts, filledLines_append_newline, List.flatten_append, solids_append, solids_append, later, newline, here]
  · rw [filledLines_line ends, ← solids_trimmed cs]
    split
    · rename_i none
      rw [none]
      rfl
    · rw [List.flatten_singleton]
termination_by cs.length

/-- What stands before the last newline is read the same whatever follows. -/
theorem filledLines_from_last (a : List Char) :
    ∃ before last lines, a = before ++ last ∧ '\n' ∉ last ∧ ∀ b, filledLines (a ++ b) = lines ++ filledLines (last ++ b) := by
  by_cases ends : '\n' ∈ a
  · obtain ⟨reversed, rest, parts, last⟩ := List.eq_append_cons_of_mem (List.mem_reverse.mpr ends)
    have whole : a = rest.reverse ++ '\n' :: reversed.reverse := by
      rw [← List.reverse_reverse a, parts, List.reverse_append, List.reverse_cons, List.append_assoc]
      rfl
    refine ⟨rest.reverse ++ ['\n'], reversed.reverse, filledLines rest.reverse, ?_, ?_, fun b => ?_⟩
    · rw [whole, List.append_assoc]
      rfl
    · exact fun member => last (List.mem_reverse.mp member)
    · rw [whole, List.append_assoc, List.cons_append, filledLines_append_newline]
  · exact ⟨[], a, [], rfl, ends, fun b => rfl⟩

/-- What stands after the first newline is read the same whatever goes before. -/
theorem filledLines_to_first (b : List Char) :
    ∃ first after lines, b = first ++ after ∧ '\n' ∉ first ∧ ∀ a, filledLines (a ++ b) = filledLines (a ++ first) ++ lines := by
  by_cases ends : '\n' ∈ b
  · obtain ⟨first, rest, parts, none⟩ := List.eq_append_cons_of_mem ends
    refine ⟨first, '\n' :: rest, filledLines rest, parts, none, fun a => ?_⟩
    rw [parts, ← List.append_assoc, filledLines_append_newline]
  · exact ⟨b, [], [], (List.append_nil b).symm, ends, fun a => (List.append_nil _).symm⟩

section Joined

variable {l m : List Char} (single : '\n' ∉ l) (single' : '\n' ∉ m)

include single single'

theorem filledLines_join (spare : trimmed l = [] ∨ trimmed m = []) :
    filledLines (l ++ m) = filledLines l ++ filledLines m := by
  have both : '\n' ∉ l ++ m := fun member => (List.mem_append.mp member).elim single single'
  rw [filledLines_line both, filledLines_line single, filledLines_line single']
  rcases spare with none | none
  · rw [trimmed_blank_append (trimmed_eq_nil_iff.mp none), if_pos none, List.nil_append]
  · rw [trimmed_append_blank (trimmed_eq_nil_iff.mp none), if_pos none, List.append_nil]

theorem length_filledLines_join (filled : trimmed l ≠ []) (filled' : trimmed m ≠ []) :
    (filledLines (l ++ m)).length + 1 = (filledLines l).length + (filledLines m).length := by
  have both : '\n' ∉ l ++ m := fun member => (List.mem_append.mp member).elim single single'
  have whole : trimmed (l ++ m) ≠ [] := by
    rw [ne_eq, trimmed_eq_nil_iff]
    exact fun blank => filled (trimmed_eq_nil_iff.mpr fun c member => blank c (List.mem_append_left _ member))
  rw [filledLines_line both, filledLines_line single, filledLines_line single', if_neg whole, if_neg filled,
    if_neg filled']
  rfl

end Joined

/-- Whether a text ends and another begins within what a line holds: something stands before and something after, and no
newline between them. -/
def PartsLine (before after : List Char) : Prop :=
  ∃ front c gap gap' d back, before = front ++ c :: gap ∧ after = gap' ++ d :: back ∧
    isBlank c = false ∧ isBlank d = false ∧ '\n' ∉ gap ∧ '\n' ∉ gap'

theorem PartsLine.extend {before after : List Char} (parts : PartsLine before after) (earlier : List Char) :
    PartsLine (earlier ++ before) after := by
  obtain ⟨front, c, gap, gap', d, back, rfl, rest⟩ := parts
  exact ⟨earlier ++ front, c, gap, gap', d, back, by rw [List.append_assoc], rest⟩

theorem newline_of_filled {c : Char} (filled : isBlank c = false) : c ≠ '\n' := by
  rintro rfl
  cases filled

theorem filledLines_append {a b : List Char} (whole : ¬PartsLine a b) :
    filledLines (a ++ b) = filledLines a ++ filledLines b := by
  obtain ⟨before, last, lines, startsAt, single, upTo⟩ := filledLines_from_last a
  obtain ⟨first, after, lines', endsAt, single', from'⟩ := filledLines_to_first b
  have spare : trimmed last = [] ∨ trimmed first = [] := by
    by_contra filled
    obtain ⟨left, right⟩ := not_or.mp filled
    obtain ⟨front, c, gap, atLast, solid⟩ := exists_filled left
    obtain ⟨gap', d, back, atFirst, solid'⟩ := exists_filled right
    refine whole ⟨before ++ front, c, gap, gap', d, back ++ after, ?_, ?_, solid, solid', ?_, ?_⟩
    · rw [startsAt, atLast, List.append_assoc]
    · rw [endsAt, atFirst, List.append_assoc, List.cons_append]
    · exact fun member => single (by rw [atLast]; simp [member])
    · exact fun member => single' (by rw [atFirst]; simp [member])
  have left := upTo []
  have right := from' []
  rw [List.append_nil, List.append_nil] at left
  rw [List.nil_append, List.nil_append] at right
  rw [upTo, from', filledLines_join single single' spare, left, right]
  simp only [List.append_assoc]

/-- Where a line is parted, each side of it is a line of its own. -/
theorem PartsLine.length_lt {a b : List Char} (parts : PartsLine a b) :
    (filledLines (a ++ b)).length < (filledLines a).length + (filledLines b).length := by
  obtain ⟨front, c, gap, gap', d, back, rfl, rfl, solid, solid', none, none'⟩ := parts
  obtain ⟨before, last, lines, _, single, upTo⟩ := filledLines_from_last front
  obtain ⟨first, after, lines', _, single', from'⟩ := filledLines_to_first back
  have left : '\n' ∉ last ++ c :: gap := by
    simp [single, none, (newline_of_filled solid).symm]
  have right : '\n' ∉ gap' ++ d :: first := by
    simp [single', none', (newline_of_filled solid').symm]
  have filled : trimmed (last ++ c :: gap) ≠ [] := by
    rw [ne_eq, trimmed_eq_nil_iff]
    exact fun blank => absurd (blank c (by simp)) (by rw [solid]; exact Bool.false_ne_true)
  have filled' : trimmed (gap' ++ d :: first) ≠ [] := by
    rw [ne_eq, trimmed_eq_nil_iff]
    exact fun blank => absurd (blank d (by simp)) (by rw [solid']; exact Bool.false_ne_true)
  have joined := length_filledLines_join left right filled filled'
  have atEnd : filledLines (gap' ++ d :: back) = filledLines (gap' ++ d :: first) ++ lines' := by
    simpa using from' (gap' ++ [d])
  have whole : filledLines (front ++ c :: gap ++ (gap' ++ d :: back)) =
      lines ++ filledLines (last ++ c :: gap ++ (gap' ++ d :: first)) ++ lines' := by
    have upper := upTo (c :: gap ++ (gap' ++ d :: back))
    have lower := from' (last ++ c :: gap ++ (gap' ++ [d]))
    simp only [List.append_assoc, List.cons_append, List.nil_append] at upper lower ⊢
    rw [upper, lower]
  rw [whole, upTo (c :: gap), atEnd]
  simp only [List.length_append]
  omega

theorem length_filledLines_append_le (a b : List Char) :
    (filledLines (a ++ b)).length ≤ (filledLines a).length + (filledLines b).length := by
  by_cases parts : PartsLine a b
  · exact parts.length_lt.le
  · rw [filledLines_append parts, List.length_append]

theorem length_filledLines_flatten_le (parts : List (List Char)) :
    (filledLines parts.flatten).length ≤ (parts.flatMap filledLines).length := by
  induction parts with
  | nil => exact le_rfl
  | cons part parts ih =>
    have here := length_filledLines_append_le part parts.flatten
    rw [List.flatten_cons, List.flatMap_cons, List.length_append]
    omega

/-- A text that comes in parts, each of which is read on its own, has the lines of the whole exactly if no line is
parted. -/
theorem flatMap_filledLines_iff {parts : List (List Char)} :
    parts.flatMap filledLines = filledLines parts.flatten ↔
      ∀ front back, parts = front ++ back → ¬PartsLine front.flatten back.flatten := by
  constructor
  · rintro same front back rfl parted
    have fewer := parted.length_lt
    have left := length_filledLines_flatten_le front
    have right := length_filledLines_flatten_le back
    have total := congrArg List.length same
    rw [List.flatMap_append, List.length_append, List.flatten_append] at total
    omega
  · intro whole
    induction parts with
    | nil => rfl
    | cons part parts ih =>
      have first : ¬PartsLine part parts.flatten := by
        have cut := whole [part] parts rfl
        rwa [List.flatten_cons, List.flatten_nil, List.append_nil] at cut
      have later : parts.flatMap filledLines = filledLines parts.flatten := by
        refine ih fun front back cut parted => whole (part :: front) back (by rw [cut, List.cons_append]) ?_
        exact parted.extend part
      rw [List.flatMap_cons, List.flatten_cons, filledLines_append first, later]

end CaptureRig.Text
