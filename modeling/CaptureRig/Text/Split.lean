namespace CaptureRig.Text

/-- The pieces between the separators, one more than there are separators. -/
def split (isSeparator : Char → Bool) : List Char → List (List Char)
  | [] => [[]]
  | c :: cs =>
    match split isSeparator cs with
    | [] => [[]]
    | piece :: pieces => if isSeparator c then [] :: piece :: pieces else (c :: piece) :: pieces

def splitAt (separator : Char) (s : String) : List String :=
  (split (· == separator) s.toList).map String.ofList

end CaptureRig.Text
