import CaptureRig.Proofs.Record.Intake
import CaptureRig.Proofs.Text.Pieces

namespace CaptureRig.Gnss

open Text

namespace Client

/-- The sentence that a line brings, unless it is blank. -/
def spoken (line : String) : List String := if (trim line).isEmpty then [] else [trim line]

theorem linesOf_eq (stamp : UInt64) (line : String) : linesOf stamp line = (spoken line).map (⟨stamp, ·⟩) := by
  unfold linesOf spoken
  split <;> rfl

theorem spoken_ofList (cs : List Char) :
    spoken (String.ofList cs) = if trimmed cs = [] then [] else [String.ofList (trimmed cs)] := by
  rw [spoken, trim, String.toList_ofList]
  by_cases none : trimmed cs = []
  · rw [if_pos none, none]
    rfl
  · have some : (String.ofList (trimmed cs)).isEmpty = false := by
      simpa using none
    rw [if_neg none, some]
    rfl

/-- What a client has heard between two moments: these sentences, all of which count, and which are kept while it logs. -/
structure Heard (c c' : Client) (sentences : List String) : Prop where
  received : c'.received = c.received + sentences.length
  lastSentence : c'.lastSentence = sentences.getLast?.or c.lastSentence
  logging : c'.logging = c.logging
  buffer : c'.buffer.map (·.sentence) = c.buffer.map (·.sentence) ++ if c.logging then sentences else []

namespace Heard

theorem refl (c : Client) : Heard c c [] where
  received := rfl
  lastSentence := rfl
  logging := rfl
  buffer := by rw [ite_self, List.append_nil]

theorem trans {c c' c'' : Client} {early late : List String} (first : Heard c c' early) (second : Heard c' c'' late) :
    Heard c c'' (early ++ late) where
  received := by
    rw [second.received, first.received, List.length_append]
    omega
  lastSentence := by rw [second.lastSentence, first.lastSentence, List.getLast?_append, Option.or_assoc]
  logging := second.logging.trans first.logging
  buffer := by
    rw [second.buffer, first.buffer, first.logging, List.append_assoc]
    by_cases on : c.logging = true
    · simp only [on, if_true]
    · simp only [on, Bool.false_eq_true, if_false, List.append_nil]

theorem ingest (c : Client) (stamp : UInt64) (line : String) : Heard c (c.ingest stamp line) (spoken line) where
  received := by
    unfold Client.ingest spoken
    dsimp only
    split <;> rfl
  lastSentence := by
    unfold Client.ingest spoken
    dsimp only
    split <;> rfl
  logging := c.ingest_logging stamp line
  buffer := by
    rw [c.ingest_buffer, linesOf_eq, List.map_append]
    split
    · rw [List.map_map]
      exact congrArg _ (List.map_id _)
    · rfl

end Heard

end Client

namespace Device

open Client (spoken spoken_ofList Heard)

section Segment

theorem rawLines_append_newline {line : List UInt8} (single : newline ∉ line) (rest : List UInt8) :
    rawLines (line ++ newline :: rest) = (line ++ [newline]) :: rawLines rest := by
  induction line with
  | nil =>
    rw [List.nil_append, rawLines]
    exact if_pos rfl
  | cons b line ih =>
    obtain ⟨other, later⟩ := not_or.mp (mt List.mem_cons.mpr single)
    rw [List.cons_append, rawLines, if_neg (Ne.symm other), ih later]
    rfl

theorem rawLines_line {line : List UInt8} (single : newline ∉ line) (filled : line ≠ []) : rawLines line = [line] := by
  induction line with
  | nil => exact absurd rfl filled
  | cons b line ih =>
    obtain ⟨other, later⟩ := not_or.mp (mt List.mem_cons.mpr single)
    rw [rawLines, if_neg (Ne.symm other)]
    by_cases last : line = []
    · rw [last, rawLines]
    · rw [ih later last]

theorem newline_not_mem_encode {cs : List Char} (single : '\n' ∉ cs) : newline ∉ Utf8.encode cs := by
  intro member
  obtain ⟨c, inside, byte⟩ := List.mem_flatMap.mp member
  have same : c = '\n' := Utf8.eq_of_mem_encodeChar (by decide) byte
  exact single (same ▸ inside)

theorem lines_line {cs : List Char} (single : '\n' ∉ cs) (filled : cs ≠ []) :
    lines (Utf8.encode cs) = [String.ofList cs] := by
  rw [lines, rawLines_line (newline_not_mem_encode single) (Utf8.encode_ne_nil filled), List.filterMap_cons, Utf8.decode?_encode]
  rfl

theorem lines_append_newline {cs : List Char} (single : '\n' ∉ cs) (rest : List Char) :
    lines (Utf8.encode (cs ++ '\n' :: rest)) = String.ofList (cs ++ ['\n']) :: lines (Utf8.encode rest) := by
  have bytes : Utf8.encode (cs ++ '\n' :: rest) = Utf8.encode cs ++ newline :: Utf8.encode rest := by
    rw [Utf8.encode_append, Utf8.encode_cons]
    rfl
  have line : Utf8.encode cs ++ [newline] = Utf8.encode (cs ++ ['\n']) := by
    rw [Utf8.encode_append]
    rfl
  rw [lines, bytes, rawLines_append_newline (newline_not_mem_encode single), List.filterMap_cons, line,
    Utf8.decode?_encode]
  rfl

/-- A text that is given without a dry moment brings its filled lines. -/
theorem flatMap_spoken_lines (cs : List Char) :
    (lines (Utf8.encode cs)).flatMap spoken = (filledLines cs).map String.ofList := by
  by_cases ends : '\n' ∈ cs
  · obtain ⟨line, rest, parts, single⟩ := List.eq_append_cons_of_mem ends
    have shorter : rest.length < cs.length := by
      rw [parts, List.length_append, List.length_cons]
      omega
    have later := flatMap_spoken_lines rest
    have bare : trimmed (line ++ ['\n']) = trimmed line := trimmed_append_blank (List.forall_mem_singleton.mpr rfl) line
    rw [parts, lines_append_newline single, List.flatMap_cons, later, filledLines_append_newline,
      filledLines_line single, spoken_ofList, bare, List.map_append]
    split <;> rfl
  · by_cases none : cs = []
    · rw [none]
      rfl
    · rw [lines_line ends none, List.flatMap_singleton, filledLines_line ends, spoken_ofList]
      split <;> rfl
termination_by cs.length

end Segment

/-- The sentences that the lines of a device bring. -/
def sentences (segments : List (List UInt8)) : List String := (read segments).flatMap spoken

theorem sentences_encode (parts : List (List Char)) :
    sentences (parts.map Utf8.encode) = (parts.flatMap filledLines).map String.ofList := by
  induction parts with
  | nil => rfl
  | cons part parts ih =>
    have head : sentences ((part :: parts).map Utf8.encode) =
        (lines (Utf8.encode part)).flatMap spoken ++ sentences (parts.map Utf8.encode) := by
      rw [sentences, read, List.map_cons, List.flatMap_cons, List.flatMap_append]
      rfl
    rw [head, flatMap_spoken_lines, ih, List.flatMap_cons, List.map_append]

section Pieces

theorem flatten_rawLines (segment : List UInt8) : (rawLines segment).flatten = segment := by
  induction segment with
  | nil => rfl
  | cons b rest ih =>
    rw [rawLines]
    split
    · rw [List.flatten_cons, ih]
      rfl
    split
    · rename_i none
      rw [none] at ih
      rw [← ih]
      rfl
    · rename_i line lines some
      rw [some] at ih
      rw [← ih]
      rfl

/-- Nothing stands after the newline of a line. -/
theorem rawLines_single {segment : List UInt8} :
    ∀ line ∈ rawLines segment, line ≠ [] ∧ newline ∉ line.dropLast := by
  induction segment with
  | nil => exact nofun
  | cons b rest ih =>
    rw [rawLines]
    split
    · exact List.forall_mem_cons.mpr ⟨⟨List.cons_ne_nil b [], List.not_mem_nil⟩, ih⟩
    rename_i other
    split
    · exact List.forall_mem_singleton.mpr ⟨List.cons_ne_nil b [], List.not_mem_nil⟩
    · rename_i line lines some
      rw [some] at ih
      obtain ⟨⟨filled, single⟩, later⟩ := List.forall_mem_cons.mp ih
      refine List.forall_mem_cons.mpr ⟨⟨List.cons_ne_nil b line, ?_⟩, later⟩
      rw [List.dropLast_cons_of_ne_nil filled, List.mem_cons, not_or]
      exact ⟨Ne.symm other, single⟩

/-- What is read in one go, between newlines and dry moments. -/
def pieces (segments : List (List UInt8)) : List (List UInt8) := segments.flatMap rawLines

theorem flatten_pieces (segments : List (List UInt8)) : (pieces segments).flatten = segments.flatten := by
  induction segments with
  | nil => rfl
  | cons segment segments ih =>
    rw [pieces, List.flatMap_cons, List.flatten_append, flatten_rawLines, ← pieces, ih, List.flatten_cons]

theorem pieces_single {segments : List (List UInt8)} :
    ∀ piece ∈ pieces segments, piece ≠ [] ∧ newline ∉ piece.dropLast := by
  intro piece member
  obtain ⟨segment, _, inside⟩ := List.mem_flatMap.mp member
  exact rawLines_single piece inside

theorem read_eq (segments : List (List UInt8)) :
    read segments = (pieces segments).filterMap fun piece => (Utf8.decode? piece).map String.ofList := by
  rw [pieces, List.filterMap_flatMap]
  rfl

theorem newline_not_mem_dropLast {cs : List Char} (single : newline ∉ (Utf8.encode cs).dropLast) :
    '\n' ∉ cs.dropLast := by
  obtain rfl | ⟨front, c, rfl⟩ := List.eq_nil_or_concat' cs
  · exact List.not_mem_nil
  intro member
  rw [List.dropLast_concat] at member
  have last : Utf8.encode [c] ≠ [] := Utf8.encode_ne_nil (List.cons_ne_nil c [])
  rw [Utf8.encode_append, List.dropLast_append_of_ne_nil last] at single
  refine single (List.mem_append_left _ (List.mem_flatMap.mpr ⟨'\n', member, ?_⟩))
  exact List.mem_cons_self

/-- Of the stretches of a text the lines are heard that are read of them. -/
theorem flatMap_spoken_pieces {pieces : List (List UInt8)} {stretches : List Stretch} (pieced : Pieces pieces stretches)
    (single : ∀ piece ∈ pieces, newline ∉ piece.dropLast) :
    (pieces.filterMap fun piece => (Utf8.decode? piece).map String.ofList).flatMap spoken =
      (stretches.flatMap Stretch.lines).map String.ofList := by
  induction pieced with
  | nil => rfl
  | whole text rest ih =>
    obtain ⟨here, later⟩ := List.forall_mem_cons.mp single
    have sentence : spoken (String.ofList text) = (Stretch.lines ⟨text, false⟩).map String.ofList := by
      rw [Stretch.lines, if_neg Bool.false_ne_true, spoken_ofList, filledLines_piece (newline_not_mem_dropLast here)]
      split <;> rfl
    rw [List.filterMap_cons, Utf8.decode?_encode, Option.map_some]
    dsimp only
    rw [List.flatMap_cons, List.flatMap_cons, List.map_append, ← ih later, sentence]
  | @torn part text unreadable together pieces stretches rest ih =>
    have lost : (part.filterMap fun piece => (Utf8.decode? piece).map String.ofList) = [] :=
      List.filterMap_eq_nil_iff.mpr fun piece member => by rw [unreadable piece member]; rfl
    rw [List.filterMap_append, lost, List.nil_append, List.flatMap_cons, Stretch.lines, if_pos rfl, List.nil_append]
    exact ih fun piece member => single piece (List.mem_append_right part member)

end Pieces

/-- All that a device gives is heard line by line. -/
theorem heard_device (s : Station) (now : Nat → UInt64) (segments : List (List UInt8)) :
    Heard s.instruments.gnss (s.device now segments).instruments.gnss (sentences segments) := by
  have each : ∀ (lines : List (String × Nat)) (s : Station),
      Heard s.instruments.gnss
        (lines.foldl (fun s entry => s.sentence (now entry.2) entry.1) s).instruments.gnss (lines.flatMap (spoken ·.1)) := by
    intro lines
    induction lines with
    | nil => exact fun s => .refl s.instruments.gnss
    | cons entry lines ih =>
      intro s
      have taken : (s.sentence (now entry.2) entry.1).instruments.gnss =
          s.instruments.gnss.ingest (Station.stamp s.instruments.gnss.provided (now entry.2) s.instruments) entry.1 := by
        rw [Station.sentence, Station.onInstruments]
      have later := ih (s.sentence (now entry.2) entry.1)
      rw [taken] at later
      rw [List.foldl_cons, List.flatMap_cons]
      exact (Heard.ingest ..).trans later
  have named : ((read segments).zipIdx).flatMap (spoken ·.1) = sentences segments := by
    rw [sentences, ← List.flatMap_map, List.zipIdx_map_fst]
  rw [← named, Station.device]
  exact each (read segments).zipIdx s

/-- What a device gives is heard sentence by sentence, with every line ended where the device runs dry, and what is no text
then is lost. So the sentences are the filled lines of the whole text, wherever else it runs dry, exactly if nothing but
blanks is lost where it does so inside a character, and it never does so in the midst of a line: with something of it
given and something of it still to come. If it runs dry between characters only, nothing is lost. -/
theorem sentences_survive_iff (s : Station) (now : Nat → UInt64) {segments : List (List UInt8)} {cs : List Char}
    (whole : segments.flatten = Utf8.encode cs) :
    let heard := sentences segments
    Heard s.instruments.gnss (s.device now segments).instruments.gnss heard ∧
      (∃ stretches, Pieces (pieces segments) stretches ∧ stretches.flatMap (·.text) = cs ∧
        (heard = (filledLines cs).map String.ofList ↔
          (∀ stretch ∈ stretches, stretch.torn = true → ∀ c ∈ stretch.text, isBlank c = true) ∧
          ∀ front back, stretches = front ++ back → ¬PartsLine (front.flatMap (·.text)) (back.flatMap (·.text)))) ∧
      ∀ parts : List (List Char), segments = parts.map Utf8.encode →
        (heard = (filledLines cs).map String.ofList ↔
          ∀ front back, parts = front ++ back → ¬PartsLine front.flatten back.flatten) := by
  dsimp only
  have injective : Function.Injective (List.map String.ofList) :=
    List.map_injective_iff.mpr fun _ _ => String.ofList_inj.mp
  refine ⟨heard_device s now segments, ?_, fun parts same => ?_⟩
  · obtain ⟨stretches, pieced, text⟩ :=
      exists_pieces (fun piece member => (pieces_single piece member).1) ((flatten_pieces segments).trans whole)
    refine ⟨stretches, pieced, text, ?_⟩
    have heard := flatMap_spoken_pieces pieced fun piece member => (pieces_single piece member).2
    rw [sentences, read_eq, heard, ← text, injective.eq_iff]
    exact flatMap_lines_iff
  · have text : parts.flatten = cs := by
      rw [same, Utf8.flatten_map_encode] at whole
      exact Utf8.encode_injective whole
    rw [same, sentences_encode, ← flatMap_filledLines_iff, ← text]
    exact injective.eq_iff

def twoLines : List Char := "$A\u2003\n$B\n".toList

/-- The two lines, where the device runs dry before the blank at the end of the first, and inside of it. -/
def tornBlank : List (List UInt8) :=
  [Utf8.encode "$A".toList, [0xE2], [0x80, 0x83] ++ Utf8.encode "\n$B\n".toList]

/-- The two lines, where the device runs dry inside of that blank only. -/
def tornLine : List (List UInt8) := [Utf8.encode "$A".toList ++ [0xE2], [0x80, 0x83] ++ Utf8.encode "\n$B\n".toList]

/-- A blank may be lost, but not together with a line. -/
theorem sentences_survive_iff_torn :
    let s : Station :=
      { control := { params := {} }, instruments := { Instruments.new "" [] with gnss := { logging := true } } }
    (s.device (fun _ => 0) tornBlank).instruments.gnss.buffer.map (·.sentence) = ["$A", "$B"] ∧
      (∃ stretches, Pieces (pieces tornBlank) stretches ∧ stretches.flatMap (·.text) = twoLines ∧
        ∀ stretch ∈ stretches, stretch.torn = true → ∀ c ∈ stretch.text, isBlank c = true) ∧
      tornLine.flatten = tornBlank.flatten ∧ sentences tornLine = ["$B"] := by
  intro s
  have whole : tornBlank.flatten = Utf8.encode twoLines := by decide +kernel
  have read : sentences tornBlank = ["$A", "$B"] := by decide +kernel
  have filled : (filledLines twoLines).map String.ofList = ["$A", "$B"] := by decide +kernel
  obtain ⟨heard, ⟨stretches, pieced, text, survive⟩, _⟩ := sentences_survive_iff s (fun _ => 0) whole
  have kept := heard.buffer
  rw [read] at kept
  exact ⟨kept, ⟨stretches, pieced, text, (survive.mp (read.trans filled.symm)).1⟩, by decide +kernel, by decide +kernel⟩

/-- Two sentences, of which the second comes in two parts. -/
def interrupted : List (List Char) := ["$GPTXT,one\n$GPTXT,par".toList, "tial\n".toList]

/-- What has come of a sentence when the device runs dry is taken for a sentence, and so is the rest. -/
theorem sentence_parted :
    interrupted.flatten = "$GPTXT,one\n$GPTXT,partial\n".toList ∧
    (filledLines interrupted.flatten).map String.ofList = ["$GPTXT,one", "$GPTXT,partial"] ∧
    sentences [Utf8.encode interrupted.flatten] = ["$GPTXT,one", "$GPTXT,partial"] ∧
    sentences (interrupted.map Utf8.encode) = ["$GPTXT,one", "$GPTXT,par", "tial"] := by
  have whole : [Utf8.encode interrupted.flatten] = [interrupted.flatten].map Utf8.encode := rfl
  rw [whole, sentences_encode, sentences_encode]
  decide +kernel

end Device

end CaptureRig.Gnss
