namespace CaptureRig

inductive Link where
  | up
  | down
  deriving Repr, DecidableEq

end CaptureRig
