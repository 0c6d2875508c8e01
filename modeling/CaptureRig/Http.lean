import CaptureRig.Status.Board

namespace CaptureRig.Http

/-- Paths under which the status document stands. -/
def statusPaths : List String := ["/status", "/json/status"]

/-- What a path leads to. -/
inductive Route where
  | status
  | trigger (c : Command)
  | index
  deriving Repr, DecidableEq

def isSchemeChar (c : Char) : Bool := c.isAlphanum || ['+', '-', '.', '~'].contains c

/-- A target without the scheme and the host that it may begin with. -/
def withoutHost (target : List Char) : List Char :=
  match target.dropWhile isSchemeChar with
  | ':' :: '/' :: '/' :: rest => rest.dropWhile fun c => c != '/' && c != '?' && c != '#'
  | _ => target

/-- The path before any query or fragment. -/
def bare (target : String) : String :=
  String.ofList ((withoutHost target.toList).takeWhile fun c => c != '?' && c != '#')

def Route.of (target : String) : Route :=
  if statusPaths.contains (bare target) then .status
  else match Command.ofPath? (bare target) with
    | some c => .trigger c
    | none => .index

structure Response where
  status : Nat
  contentType : Option String := none
  body : String := ""
  deriving Repr, DecidableEq

def ok : Nat := 200

def methodNotAllowed : Nat := 405

def indexPage : String := "<!DOCTYPE html>
<html>
<head><title>Scan Rig</title></head>
<body>
<h1>Scan Rig</h1>
<ul>
<li><a href=\x22/status\x22>Status</a></li>
<li><a href=\x22/trig/start_bag\x22>Start continuous scanning</a></li>
<li><a href=\x22/trig/stop_bag\x22>Stop continuous scanning</a></li>
<li><a href=\x22/trig/stopscan\x22>Trigger stop scan</a></li>
<li><a href=\x22/trig/toggle\x22>Toggle continuous scanning</a></li>
</ul>
</body>
</html>
"

/-- The answer to a request that is let through. -/
def reply (route : Route) (now : UInt64) (s : Station) : Response × Station :=
  match route with
  | .status => (⟨ok, some "application/json", (s.status now).write⟩, s)
  | .trigger c => (⟨ok, none, ""⟩, s.send c)
  | .index => (⟨ok, some "text/html; charset=utf-8", indexPage⟩, s)

/-- The methods that are answered without a body. -/
def bodiless : List String := ["HEAD", "CONNECT"]

/-- Answer a request. The page of links answers any method, the other routes only two, one of which wants no body. -/
def respond (method target : String) (now : UInt64) (s : Station) : Response × Station :=
  let route := Route.of target
  if route ≠ .index ∧ method ≠ "GET" ∧ method ≠ "HEAD" then (⟨methodNotAllowed, none, ""⟩, s)
  else
    let (response, s) := reply route now s
    (if bodiless.contains method then { response with body := "" } else response, s)

/-- Answer requests that come over the network, which has to be up for that. -/
def serve (link : Link) (now : Nat → UInt64) (targets : List String) (s : Station) :
    Except Fault (List Response × Station) :=
  if link = .down ∧ targets ≠ [] then .error .networkDown
  else .ok (targets.zipIdx.foldl (fun (responses, s) (target, i) =>
    let (response, s) := respond "GET" target (now i) s
    (responses ++ [response], s)) ([], s))

end CaptureRig.Http
