import LedgerClient.Node.Notice

/-!
# Journals

Everything that an observer can see of the client's work, in order: the calls it makes, the links
it gives up, the states it reports and the notices it writes.

Work that never ends would have an endless journal. There is one way for that to happen, which is
that reports on an extrinsic come for ever and there is always a next one to ask for. An entry of its
own stands for the endless rest.
-/

namespace LedgerClient

/-- The state of the connection that a client reports. -/
inductive LinkState where
  /-- There is no link. -/
  | disconnected
  /-- A link is being made. -/
  | connecting
  /-- There is a live link. -/
  | connected
  /-- No link could be made; the text says why. -/
  | failed (text : String)
  deriving DecidableEq

/-- One thing that an observer sees. -/
inductive Entry where
  /-- A link to a websocket address was asked for. -/
  | dialled (url : String)
  /-- A request was made over a link. -/
  | asked (link : Link) (request : Request)
  /-- The next report on a submitted extrinsic was asked for. -/
  | polled
  /-- From here on reports are asked for and come, for ever. -/
  | unending
  /-- A link was given up. -/
  | released (link : Link)
  /-- A state was reported. -/
  | reported (state : LinkState)
  /-- A notice was written. -/
  | noted (notice : Notice)

/-- What an observer sees, in order. -/
abbrev Journal := List Entry

namespace Journal

/-- The requests made over links, in order. -/
def requests (journal : Journal) : List Request :=
  journal.filterMap fun
    | .asked _ request => some request
    | _ => none

/-- The addresses to which links were asked for, in order. -/
def dials (journal : Journal) : List String :=
  journal.filterMap fun
    | .dialled url => some url
    | _ => none

/-- The states reported, in order. -/
def reports (journal : Journal) : List LinkState :=
  journal.filterMap fun
    | .reported state => some state
    | _ => none

/-- The notices written, in order. -/
def notices (journal : Journal) : List Notice :=
  journal.filterMap fun
    | .noted notice => some notice
    | _ => none

/-- How often the next report on an extrinsic was asked for. -/
def polls (journal : Journal) : Nat :=
  journal.countP fun
    | .polled => true
    | _ => false

/-- Whether the journal is that of work that never ends. -/
def isUnending (journal : Journal) : Bool :=
  journal.any fun
    | .unending => true
    | _ => false

end Journal

end LedgerClient
