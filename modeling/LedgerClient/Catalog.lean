import LedgerClient.Error
import LedgerClient.Random.Draw

/-!
# The catalog of entry points

Which addresses lead to a network, and the choice of one that has not been tried. Addresses are
bare, `host:port`; the websocket scheme is put in front when a link is made.

## The model

A catalog gives the addresses of each network that it lists, and lists no network without an
address. Of several entries for one network the last one counts.
-/

namespace LedgerClient

/-- The addresses of each listed network. -/
structure Catalog where
  /-- The addresses of a network in order, if it is listed. -/
  addresses? : Network → Option (List String)
  /-- A listed network has an address. -/
  ne_nil : ∀ network list, addresses? network = some list → list ≠ []

namespace Catalog

/-! ### Building -/

/-- The host names that the two primary networks share. -/
def hosts : List String :=
  ["fermi", "copernicus", "buys", "nobel", "mendeleev", "rontgen", "feynman", "bunsen",
   "berkeley", "huygens"]

/-- The built-in addresses of a network. -/
def entrypoints : Network → List String
  | .akira => hosts.map (· ++ ".akira.bittensor.com:9944")
  | .kusanagi => hosts.map (· ++ ".kusanagi.bittensor.com:9944")
  | .boltzmann => ["feynman.boltzmann.bittensor.com:9944"]
  | .localhost => ["127.0.0.1:9944"]

/-- The built-in catalog, which lists every network. -/
def builtin : Catalog where
  addresses? network := some (entrypoints network)
  ne_nil network list h := by
    cases h
    cases network <;> simp [entrypoints, hosts]

/-- The catalog that lists nothing. -/
def empty : Catalog := ⟨fun _ => none, by simp⟩

/-- The catalog with an entry added or replaced; an entry must hold an address. -/
def insert (c : Catalog) (network : Network) (list : List String) : Except Error Catalog :=
  if h : list = [] then .error (.invalidArgument (.noEntrypoints network))
  else .ok
    { addresses? := fun n => if n = network then some list else c.addresses? n
      ne_nil := by
        intro n found hn
        by_cases same : n = network
        · simp only [same, if_true, Option.some.injEq] at hn
          exact hn ▸ h
        · simp only [same, if_false] at hn
          exact c.ne_nil n found hn }

/-- The catalog of a list of entries. -/
def ofEntries (entries : List (Network × List String)) : Except Error Catalog :=
  entries.foldlM (fun c (network, list) => c.insert network list) empty

/-! ### Looking up -/

/-- The addresses of a network, in catalog order. -/
def endpoints (c : Catalog) (network : Network) : Except Error (List String) :=
  match c.addresses? network with
  | some list => .ok list
  | none => .error (.unknownNetwork network.name)

/-- The listed networks. -/
def networks (c : Catalog) : List Network := Network.all.filter fun n => (c.addresses? n).isSome

/-- The websocket form of an address: an address that has a websocket scheme stays as it is. -/
def websocketUrl (address : String) : String :=
  if "ws://".isPrefixOf address || "wss://".isPrefixOf address then address
  else "ws://" ++ address

/-! ### Choosing -/

/-- The candidates that have not been tried. -/
def untried (candidates tried : List String) : List String :=
  candidates.filter fun a => !tried.contains a

/-- A tried address is no longer among the untried ones. -/
theorem untried_shrinks {candidates tried : List String} {address : String}
    (h : address ∈ untried candidates tried) :
    (untried candidates (tried ++ [address])).length <
      (untried candidates tried).length := by
  have split : untried candidates (tried ++ [address]) =
      (untried candidates tried).filter fun a => a != address := by
    simp only [untried, List.filter_filter]
    congr 1
    funext a
    by_cases same : a = address <;> simp [same]
  rw [split]
  exact List.length_filter_lt_length_iff_exists.mpr ⟨address, h, by simp⟩

/-- An untried candidate, drawn with equal chances, with the proof that it is one. -/
def pickUntried (candidates tried : List String) (words : WordSource) :
    Option { address : String // address ∈ untried candidates tried } × WordSource :=
  words.pick (untried candidates tried).attach

/-- What asking for a candidate gives. -/
inductive Resolution where
  /-- A candidate that has not been tried. -/
  | endpoint (address : String)
  /-- Every candidate has been tried. -/
  | exhausted
  deriving DecidableEq

/-- A candidate of a network that has not been tried, drawn with equal chances. -/
def resolve (c : Catalog) (network : Network) (tried : List String) (words : WordSource) :
    Except Error Resolution × WordSource :=
  match c.endpoints network with
  | .error e => (.error e, words)
  | .ok candidates =>
    match pickUntried candidates tried words with
    | (some address, rest) => (.ok (.endpoint address.val), rest)
    | (none, rest) => (.ok .exhausted, rest)

end Catalog

end LedgerClient
