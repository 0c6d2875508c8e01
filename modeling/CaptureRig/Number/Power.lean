namespace CaptureRig

/-- Two to a power. -/
def twoTo (e : Nat) : Nat := Nat.pow 2 e

/-- Ten to a power. -/
def tenTo (e : Nat) : Nat := Nat.pow 10 e

end CaptureRig
