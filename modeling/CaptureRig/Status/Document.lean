import CaptureRig.Json.Reader

namespace CaptureRig.Status

/-- The name in every document that is begun here. -/
def rigName : String := "ScanRig"

def clientsKey : String := "clients"

/-- The keys that no report may have. -/
def reservedKeys : List String := ["name", "state", clientsKey]

structure Document where
  name : String
  state : String
  /-- Reports by their keys. -/
  reports : Table String Json

namespace Document

def new (state : String) : Document := ⟨rigName, state, {}⟩

/-- Add a report over any of the same key; reserved keys are refused. -/
def insert (d : Document) (key : String) (report : Json) : Bool × Document :=
  if reservedKeys.contains key then (false, d) else (true, { d with reports := d.reports.insert key report })

/-- Set the clients that are attached. -/
def setClients (d : Document) (clients : Table String Json) : Document :=
  { d with reports := d.reports.insert clientsKey (.object clients.entries) }

/-- The document in the order in which it is written: name, state, then the reports by their keys. -/
def members (d : Document) : List (String × Json) :=
  ("name", .text d.name) :: ("state", .text d.state) :: d.reports.entries

def write (d : Document) : String := (Json.object d.members).compact

/-- The document as a value, its members sorted; a later member takes the place of an earlier one. -/
def json (d : Document) : Json := .object (Table.ofList d.members).entries

/-- The document with these members: `name` and `state` are texts and stand once each, all else is reports, of
which the last of one key counts. -/
def ofMembers? (members : List (String × Json)) : Option Document :=
  match members.filter (·.1 == "name"), members.filter (·.1 == "state") with
  | [(_, .text name)], [(_, .text state)] =>
    some ⟨name, state, Table.ofList (members.filter fun m => m.1 != "name" && m.1 != "state")⟩
  | _, _ => none

def ofJson? : Json → Option Document
  | .object members => ofMembers? members
  | _ => none

/-- Read a document from JSON text. -/
def parse? (s : String) : Option Document :=
  match Json.Raw.read? s with
  | some (.object members) => (Json.membersOfRaw? (Json.depthLimit - 1) members).bind ofMembers?
  | _ => none

end Document

end CaptureRig.Status
