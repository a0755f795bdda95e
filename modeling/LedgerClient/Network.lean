import LedgerClient.Text.Blank

/-!
# Networks

The four known networks. Each has a codename and a role; a text names a network by either, with
blanks around it and in any ASCII case.
-/

namespace LedgerClient

/-- A known network. -/
inductive Network where
  /-- The primary test network. -/
  | akira
  /-- The primary main network. -/
  | kusanagi
  /-- The staging network. -/
  | boltzmann
  /-- A node on this machine. -/
  | localhost
  deriving DecidableEq

namespace Network

/-- The codename. -/
def name : Network → String
  | .akira => "akira"
  | .kusanagi => "kusanagi"
  | .boltzmann => "boltzmann"
  | .localhost => "local"

/-- The role, whatever the codename. -/
def role : Network → String
  | .akira => "primary-test"
  | .kusanagi => "primary-main"
  | .boltzmann => "staging"
  | .localhost => "local"

/-- All known networks. -/
def all : List Network := [.akira, .kusanagi, .boltzmann, .localhost]

/-- The list of all networks is complete. -/
theorem mem_all (n : Network) : n ∈ all := by cases n <;> decide

/-- The network with exactly this codename. -/
def ofName? (text : String) : Option Network := all.find? fun n => n.name == text

/-- The network that a text names, by codename or by role. -/
def ofText? (text : String) : Option Network :=
  let lowered := (Text.trim text).map Char.toLower
  all.find? fun n => n.name == lowered || n.role == lowered

end Network

end LedgerClient
