namespace CaptureRig.Csv

/-- Whether a character cannot stand in a field without quotes. -/
def needsQuotes (c : Char) : Bool :=
  c == ' ' || c == '\x22' || c == '\r' || c == '\n'

/-- A writer of tables, told by what it makes of a field. Quotes are put where they are necessary only. -/
structure Writer where
  field : String → String
  field_plain : ∀ s : String, (∀ c ∈ s.toList, needsQuotes c = false) → field s = s

namespace Writer

/-- The fields of a row are parted by one blank, and a newline ends it. -/
def row (w : Writer) (fields : List String) : String := " ".intercalate (fields.map w.field) ++ "\n"

def rows (w : Writer) (table : List (List String)) : String := String.join (table.map w.row)

end Writer

def doubled (cs : List Char) : List Char :=
  cs.flatMap fun c => if c = '\x22' then ['\x22', '\x22'] else [c]

/-- A field in quotes if it holds a blank, a quote or a line end; a quote inside quotes is written twice. -/
def quoted (s : String) : String :=
  if s.toList.any needsQuotes then String.ofList ('\x22' :: doubled s.toList ++ ['\x22']) else s

/-- The writer whose quotes can be read back. -/
def Writer.standard : Writer where
  field := quoted
  field_plain s plain := by
    have bare : s.toList.any needsQuotes = false := by
      rw [List.any_eq_false]
      exact fun c member => by rw [plain c member]; exact Bool.false_ne_true
    rw [quoted, bare, if_neg Bool.false_ne_true]

end CaptureRig.Csv
