namespace CaptureRig.Text

/-- The characters with the White_Space property. -/
def isBlank (c : Char) : Bool :=
  let n := c.toNat
  (9 ≤ n && n ≤ 13) || n == 0x20 || n == 0x85 || n == 0xA0 || n == 0x1680 || (0x2000 ≤ n && n ≤ 0x200A) ||
    n == 0x2028 || n == 0x2029 || n == 0x202F || n == 0x205F || n == 0x3000

/-- The characters up to the last one that `drop` does not hold of. -/
def dropEnd (drop : Char → Bool) (cs : List Char) : List Char :=
  (cs.reverse.dropWhile drop).reverse

def trimmed (cs : List Char) : List Char :=
  dropEnd isBlank (cs.dropWhile isBlank)

/-- The text without the blanks at its two ends. -/
def trim (s : String) : String :=
  String.ofList (trimmed s.toList)

end CaptureRig.Text
