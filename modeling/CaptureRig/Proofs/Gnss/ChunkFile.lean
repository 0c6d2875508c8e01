import CaptureRig.Proofs.Chunk.FileName
import CaptureRig.Proofs.Record.Intake
import CaptureRig.Proofs.Storage.Content
import CaptureRig.Proofs.Text.Lines

namespace CaptureRig.Gnss

open Text

section Reading

/-- What a line of a file of sentences says: the time up to the first blank, the sentence after it. -/
def Line.ofText? (line : List Char) : Option Line :=
  (natural? decimalValue? 10 UInt64.size (line.takeWhile (· != ' '))).map fun time =>
    ⟨UInt64.ofNat time, String.ofList ((line.dropWhile (· != ' ')).drop 1)⟩

/-- What a file of sentences says, line by line. -/
def readLines? (text : String) : Option (List Line) := (split (· == '\n') text.toList).dropLast.mapM Line.ofText?

/-- The dump that a file of sentences tells. -/
def readDump? (text : String) : Option Chunk.Dump :=
  (readLines? text).map fun lines => ⟨clientName, some (.sentences lines)⟩

/-- A line of a file of sentences without its newline. -/
def Line.chars (l : Line) : List Char := (toString l.timestamp.toNat).toList ++ ' ' :: l.sentence.toList

theorem toList_sentenceLine (l : Line) : (Chunk.Payload.sentenceLine l).toList = l.chars ++ ['\n'] := by
  simp only [Chunk.Payload.sentenceLine, String.toList_append, Line.chars, List.append_assoc]
  rfl

/-- No digit is a blank, so that the first blank in a line is the one after the time. -/
theorem Line.ofText?_chars (l : Line) : Line.ofText? l.chars = some l := by
  have digits : ∀ c ∈ (toString l.timestamp.toNat).toList, (c != ' ') = true := by
    intro c member
    rw [bne_iff_ne]
    rintro rfl
    cases isDigit_of_mem_toString member
  have time : l.chars.takeWhile (· != ' ') = (toString l.timestamp.toNat).toList := by
    rw [chars]
    exact takeWhile_run digits fun _ first => Option.some.inj first ▸ rfl
  have rest : l.chars.dropWhile (· != ' ') = ' ' :: l.sentence.toList := by
    rw [chars, List.dropWhile_append_of_pos digits, List.dropWhile_cons_of_neg (by decide)]
  have number : natural? decimalValue? 10 UInt64.size (toString l.timestamp.toNat).toList = some l.timestamp.toNat := by
    rw [Nat.toString_eq_repr, Nat.toList_repr]
    exact natural?_toDigits l.timestamp.toNat_lt
  rw [ofText?, time, rest, number, Option.map_some, List.drop_one, List.tail_cons, String.ofList_toList,
    UInt64.ofNat_toNat]

variable {lines : List Line}

/-- Lines without newlines are what a text of them is split into, and nothing stands after the last. -/
theorem split_lines (single : ∀ l ∈ lines, '\n' ∉ l.sentence.toList) :
    split (· == '\n') (String.join (lines.map Chunk.Payload.sentenceLine)).toList = lines.map Line.chars ++ [[]] := by
  induction lines with
  | nil => rfl
  | cons l lines ih =>
    obtain ⟨here, later⟩ := List.forall_mem_cons.mp single
    have none : ∀ c ∈ l.chars, (c == '\n') = false := by
      intro c member
      rw [beq_eq_false_iff_ne]
      rintro rfl
      rcases List.mem_append.mp member with digit | rest
      · cases isDigit_of_mem_toString digit
      rcases List.mem_cons.mp rest with blank | inside
      · cases blank
      · exact here inside
    rw [List.map_cons, String.join_cons, String.toList_append, toList_sentenceLine, List.append_assoc,
      List.cons_append, List.nil_append, split_append rfl, split_of_none none, ih later]
    rfl

theorem readLines?_join (single : ∀ l ∈ lines, '\n' ∉ l.sentence.toList) :
    readLines? (String.join (lines.map Chunk.Payload.sentenceLine)) = some lines := by
  have each : (lines.map Line.chars).mapM Line.ofText? = some lines := by
    clear single
    induction lines with
    | nil => rfl
    | cons l lines ih =>
      rw [List.map_cons, List.mapM_cons, Line.ofText?_chars, ih]
      rfl
  rw [readLines?, split_lines single, List.dropLast_concat, each]

theorem length_split (cs : List Char) : (split (· == '\n') cs).length = cs.count '\n' + 1 := by
  induction cs with
  | nil => rfl
  | cons c cs ih =>
    obtain ⟨piece, pieces, rest, whole⟩ := @split_cons (· == '\n') c cs
    rw [rest, List.length_cons] at ih
    rw [whole, List.count_cons]
    split
    · simp only [List.length_cons]
      omega
    · simp only [List.length_cons]
      omega

theorem count_newline_join (single : ∀ l ∈ lines, '\n' ∉ l.sentence.toList) :
    (String.join (lines.map Chunk.Payload.sentenceLine)).toList.count '\n' = lines.length := by
  have pieces := length_split (String.join (lines.map Chunk.Payload.sentenceLine)).toList
  rw [split_lines single, List.length_append, List.length_map, List.length_singleton] at pieces
  omega

end Reading

/-- What is done with the client of the receiver. -/
inductive Act where
  /-- A line of the receiver comes, with the time that its clock shows then, whichever clock it is. -/
  | sentence (stamp : UInt64) (line : String)
  | start
  | stop
  /-- The clock of the rig is handed over. -/
  | provide
  | freeze

/-- Whether no newline comes but at the end of a line, as lines are read from a device. -/
def Act.OneLine : Act → Prop
  | .sentence _ line => '\n' ∉ line.toList.dropLast
  | _ => True

namespace Client

def act (c : Client) : Act → Client
  | .sentence stamp line => c.ingest stamp line
  | .start => c.start
  | .stop => c.stop
  | .provide => c.provide
  | .freeze => c.freeze.2

def run (acts : List Act) : Client := acts.foldl act {}

/-- An act after which nothing is kept of what came before it: a freeze, or a start of a client that does not log. -/
def Empties (c : Client) (k : Act) : Prop := k = .freeze ∨ k = .start ∧ c.logging = false

/-- None of these acts is of that sort. -/
def Retains : Client → List Act → Prop
  | _, [] => True
  | c, k :: acts => ¬c.Empties k ∧ (c.act k).Retains acts

/-- The lines that come while the client logs. -/
def heard : Bool → List Act → List Line
  | _, [] => []
  | on, .sentence stamp line :: acts => (if on then linesOf stamp line else []) ++ heard on acts
  | _, .start :: acts => heard true acts
  | _, .stop :: acts => heard false acts
  | on, .provide :: acts => heard on acts
  | on, .freeze :: acts => heard on acts

variable {c : Client}

theorem Empties.buffer {k : Act} (empties : c.Empties k) : (c.act k).buffer = [] := by
  rcases empties with rfl | ⟨rfl, off⟩
  · rfl
  · rw [act, start, off]
    rfl

/-- As long as the buffer is not emptied, the lines that come are added to it in order. -/
theorem Retains.buffer {acts : List Act} (retains : c.Retains acts) :
    (acts.foldl act c).buffer = c.buffer ++ heard c.logging acts := by
  induction acts generalizing c with
  | nil => exact (List.append_nil _).symm
  | cons k acts ih =>
    obtain ⟨keeps, later⟩ := retains
    rw [List.foldl_cons, ih later]
    cases k with
    | sentence stamp line => rw [act, ingest_buffer, ingest_logging, heard, List.append_assoc]
    | start =>
      have on : c.logging = true := by
        by_contra off
        exact keeps (Or.inr ⟨rfl, eq_false_of_ne_true off⟩)
      have same : c.start = c := if_pos on
      rw [act, same, heard, on]
    | stop => rfl
    | provide => rfl
    | freeze => exact absurd (Or.inl rfl) keeps

/-- Every run can be parted where its buffer was emptied for the last time. -/
theorem exists_emptied (c : Client) (acts : List Act) :
    ∃ earlier later, acts = earlier ++ later ∧ (earlier.foldl act c).Retains later ∧
      (earlier = [] ∨ ∃ before k, earlier = before ++ [k] ∧ (before.foldl act c).Empties k) := by
  induction acts generalizing c with
  | nil => exact ⟨[], [], rfl, trivial, Or.inl rfl⟩
  | cons k acts ih =>
    obtain ⟨earlier, later, rfl, retains, rfl | ⟨before, last, rfl, empties⟩⟩ := ih (c.act k)
    · by_cases empties : c.Empties k
      · exact ⟨[k], later, rfl, retains, Or.inr ⟨[], k, rfl, empties⟩⟩
      · exact ⟨[], k :: later, rfl, ⟨empties, retains⟩, Or.inl rfl⟩
    · exact ⟨k :: (before ++ [last]), later, rfl, retains, Or.inr ⟨k :: before, last, rfl, empties⟩⟩

theorem exists_of_mem_heard {on : Bool} {acts : List Act} {l : Line} (member : l ∈ heard on acts) :
    ∃ stamp line, .sentence stamp line ∈ acts ∧ l ∈ linesOf stamp line := by
  induction acts generalizing on with
  | nil => cases member
  | cons k acts ih =>
    have later {on : Bool} (member : l ∈ heard on acts) :
        ∃ stamp line, .sentence stamp line ∈ k :: acts ∧ l ∈ linesOf stamp line := by
      obtain ⟨stamp, line, inside, from'⟩ := ih member
      exact ⟨stamp, line, List.mem_cons_of_mem k inside, from'⟩
    cases k with
    | sentence stamp line =>
      rcases List.mem_append.mp member with here | rest
      · split at here
        · exact ⟨stamp, line, List.mem_cons_self, here⟩
        · cases here
      · exact later rest
    | start | stop | provide | freeze => exact later member

/-- Lines are kept without newlines, if there were none in them but at their ends. -/
theorem newline_not_mem_heard {on : Bool} {acts : List Act} (single : ∀ k ∈ acts, k.OneLine) :
    ∀ l ∈ heard on acts, '\n' ∉ l.sentence.toList := by
  intro l member
  obtain ⟨stamp, line, inside, kept⟩ := exists_of_mem_heard member
  have bare : '\n' ∉ trimmed line.toList := newline_not_mem_trimmed (single _ inside)
  unfold linesOf at kept
  split at kept
  · cases kept
  · cases List.mem_singleton.mp kept
    rwa [trim, String.toList_ofList]

/-- What is handed over after a run is what has come while the client logged, since its buffer was last emptied. -/
theorem exists_frozen (acts : List Act) :
    ∃ earlier later, acts = earlier ++ later ∧ (run earlier).Retains later ∧
      (earlier = [] ∨ ∃ before k, earlier = before ++ [k] ∧ (run before).Empties k) ∧
      (run acts).buffer = heard (run earlier).logging later := by
  obtain ⟨earlier, later, rfl, retains, emptied⟩ := exists_emptied {} acts
  have none : (run earlier).buffer = [] := by
    rcases emptied with rfl | ⟨before, k, rfl, empties⟩
    · rfl
    · rw [run, List.foldl_append]
      exact empties.buffer
  refine ⟨earlier, later, rfl, retains, emptied, ?_⟩
  have added := retains.buffer
  rw [← run, none, List.nil_append] at added
  rw [run, List.foldl_append]
  exact added

end Client

end CaptureRig.Gnss

namespace CaptureRig.Chunk

open Storage

theorem write_sentences {w : Csv.Writer} {lines : List Gnss.Line} {dir : String} {index : Nat} {files : List String}
    {t t' : Tree} (done : (Payload.sentences lines).write w dir index t = (.ok files, t')) :
    files = [Payload.filePath dir "gnss" index "gnss"] ∧
      t'.Holds (Payload.filePath dir "gnss" index "gnss") (.text (String.join (lines.map Payload.sentenceLine))) := by
  obtain ⟨rfl, whole⟩ := Payload.write_eq_ok done
  have entry : Path.IsEntry (fileName "gnss" index "gnss") :=
    (bears_fileName isKind_gnss (by decide) index).namedFor.isEntry
  have plan : WriteStep.runAll ([] ++ [.create (Payload.filePath dir "gnss" index "gnss")
      (.text (String.join (lines.map Payload.sentenceLine))) .file]) t = (none, t') := whole
  exact ⟨rfl, WriteStep.runAll_makes plan (placeOf_entry_ne_nil entry) fun step member => absurd member List.not_mem_nil⟩

end CaptureRig.Chunk

namespace CaptureRig.Gnss.Client

open Text

/-- A dump of lines without newlines is told by the file that is written of it. -/
theorem readDump?_of_write {w : Csv.Writer} {c : Client} (bare : ∀ l ∈ c.buffer, '\n' ∉ l.sentence.toList) {dir : String}
    {index : Nat} {files : List String} {t t' : Storage.Tree} (done : c.freeze.1.write w dir index t = (.ok files, t')) :
    files = [Chunk.Payload.filePath dir "gnss" index "gnss"] ∧
      ∃ text, t'.readText (Chunk.Payload.filePath dir "gnss" index "gnss") = .ok text ∧
        readDump? text = some c.freeze.1 ∧ text.toList.count '\n' = c.freeze.1.size := by
  have payload : (Chunk.Payload.sentences c.buffer).write w dir index t = (.ok files, t') := done
  obtain ⟨named, held⟩ := Chunk.write_sentences payload
  refine ⟨named, _, held.readText, ?_, count_newline_join bare⟩
  rw [readDump?, readLines?_join bare]
  rfl

theorem newline_not_mem_buffer {acts : List Act} (single : ∀ k ∈ acts, k.OneLine) :
    ∀ l ∈ (run acts).buffer, '\n' ∉ l.sentence.toList := by
  obtain ⟨earlier, later, rfl, _, _, kept⟩ := exists_frozen acts
  rw [kept]
  exact newline_not_mem_heard fun k member => single k (List.mem_append_right earlier member)

/-- Whatever is done with a client, the dump that it hands over holds the lines that came while it logged, since its buffer
was last emptied: trimmed, in order, each with its time, and none of the blank ones. If no line has a newline but at its
end, the file written of the dump tells it, with a line for each of its own. So no other dump is written as the same
text. -/
theorem chunk_file_faithful (w : Csv.Writer) (acts : List Act) (single : ∀ k ∈ acts, k.OneLine) :
    ∃ earlier later, acts = earlier ++ later ∧ (run earlier).Retains later ∧
      (earlier = [] ∨ ∃ before k, earlier = before ++ [k] ∧ (run before).Empties k) ∧
      let dump : Chunk.Dump := ⟨clientName, some (.sentences (heard (run earlier).logging later))⟩
      (run acts).freeze = (dump, { run acts with buffer := [] }) ∧
      ∀ dir index t files t', dump.write w dir index t = (.ok files, t') →
        files = [Chunk.Payload.filePath dir "gnss" index "gnss"] ∧
        ∃ text, t'.readText (Chunk.Payload.filePath dir "gnss" index "gnss") = .ok text ∧
          readDump? text = some dump ∧ text.toList.count '\n' = dump.size ∧
          ∀ acts' dir' index' u files' u', (∀ k ∈ acts', k.OneLine) →
            (run acts').freeze.1.write w dir' index' u = (.ok files', u') →
            u'.readText (Chunk.Payload.filePath dir' "gnss" index' "gnss") = .ok text → (run acts').freeze.1 = dump := by
  obtain ⟨earlier, later, parts, retains, emptied, kept⟩ := exists_frozen acts
  refine ⟨earlier, later, parts, retains, emptied, ?_⟩
  rw [← kept]
  refine ⟨rfl, fun dir index t files t' done => ?_⟩
  obtain ⟨named, text, held, told, count⟩ := readDump?_of_write (newline_not_mem_buffer single) done
  refine ⟨named, text, held, told, count, fun acts' dir' index' u files' u' single' done' held' => ?_⟩
  obtain ⟨_, text', heldHere, told', _⟩ := readDump?_of_write (newline_not_mem_buffer single') done'
  have same : text' = text := Except.ok.inj (heldHere.symm.trans held')
  rw [same] at told'
  exact Option.some.inj (told'.symm.trans told)

/-- A client that starts to log after its first sentence. The second holds a blank and ends as lines of a device do, and
nothing is in the third. -/
def threeLines : List Act :=
  [.sentence 7 "$GPTXT,early", .provide, .start, .sentence 42 "$GPTXT,one two\r\n", .sentence 43 " \r\n"]

theorem chunk_file_faithful_three :
    (∀ k ∈ threeLines, k.OneLine) ∧ (run threeLines).freeze.1 = ⟨"gnss", some (.sentences [⟨42, "$GPTXT,one two"⟩])⟩ ∧
      ∃ t', (run threeLines).freeze.1.write .standard "usb" 3 { entries := [(["usb"], .directory)] } =
          (.ok ["usb/gnss0003.gnss"], t') ∧
        ∃ text, t'.readText "usb/gnss0003.gnss" = .ok text ∧ readDump? text = some (run threeLines).freeze.1 ∧
          text.toList.count '\n' = 1 := by
  have single : ∀ k ∈ threeLines, k.OneLine := by
    intro k member
    simp only [threeLines, List.mem_cons, List.not_mem_nil, or_false] at member
    rcases member with rfl | rfl | rfl | rfl | rfl
    · exact (by decide : '\n' ∉ "$GPTXT,early".toList.dropLast)
    · trivial
    · trivial
    · exact (by decide : '\n' ∉ "$GPTXT,one two\r\n".toList.dropLast)
    · exact (by decide : '\n' ∉ " \r\n".toList.dropLast)
  have frozen : (run threeLines).freeze.1 = ⟨"gnss", some (.sentences [⟨42, "$GPTXT,one two"⟩])⟩ := by decide +kernel
  have written : ((run threeLines).freeze.1.write .standard "usb" 3 { entries := [(["usb"], .directory)] }).1 =
      .ok ["usb/gnss0003.gnss"] := by
    decide +kernel
  have path : Chunk.Payload.filePath "usb" "gnss" 3 "gnss" = "usb/gnss0003.gnss" := by decide +kernel
  obtain ⟨earlier, later, _, _, _, handed, file⟩ := chunk_file_faithful .standard threeLines single
  have dump := congrArg Prod.fst handed
  dsimp only at dump
  rw [← dump] at file
  obtain ⟨_, text, held, told, count, _⟩ := file "usb" 3 { entries := [(["usb"], .directory)] } _ _ (Prod.ext written rfl)
  rw [path] at held
  refine ⟨single, frozen, _, Prod.ext written rfl, text, held, told, ?_⟩
  rw [count, frozen]
  rfl

end CaptureRig.Gnss.Client
