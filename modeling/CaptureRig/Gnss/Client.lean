import CaptureRig.Chunk.Dump
import CaptureRig.Gnss.Sentence

namespace CaptureRig.Gnss

def clientName : String := "gnss"

structure Client where
  logging : Bool := false
  /-- Whether the clock of the rig has been handed over; the system clock is read until then. -/
  provided : Bool := false
  buffer : List Line := []
  received : Nat := 0
  badChecksums : Nat := 0
  lastSentence : Option String := none

namespace Client

/-- Take a line of the receiver, where `stamp` is the time of its receipt. Blank lines do not count, and sentences
are kept while logging, whatever their checksums. -/
def ingest (stamp : UInt64) (line : String) (c : Client) : Client :=
  let sentence := Text.trim line
  if sentence.isEmpty then c
  else
    { c with
      received := c.received + 1
      badChecksums := if checksumHolds sentence.toList then c.badChecksums else c.badChecksums + 1
      lastSentence := some sentence
      buffer := if c.logging then c.buffer ++ [⟨stamp, sentence⟩] else c.buffer }

/-- Begin to log, with nothing kept from before. -/
def start (c : Client) : Client :=
  if c.logging then c else { c with logging := true, buffer := [] }

def stop (c : Client) : Client := { c with logging := false }

/-- Hand over what has been kept. -/
def freeze (c : Client) : Chunk.Dump × Client :=
  (⟨clientName, some (.sentences c.buffer)⟩, { c with buffer := [] })

/-- Take the clock of the rig. -/
def provide (c : Client) : Client := { c with provided := true }

def report (c : Client) : Json :=
  .object [("bad_checksums", .nat c.badChecksums), ("buffer", .nat c.buffer.length),
    ("last_sentence", .ofOption .text c.lastSentence), ("lines", .nat c.received), ("logging", .bool c.logging)]

end Client

end CaptureRig.Gnss
