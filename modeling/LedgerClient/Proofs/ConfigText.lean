import LedgerClient.Config.Store
import LedgerClient.Proofs.JsonText

/-!
# Configurations are kept

A configuration that is saved is loaded again as it was, whatever is in it: an endpoint of any
characters, also an empty one, times of any length, and no network where there is none. The file of a
configuration is the only one that is read, and it is replaced as a whole.

## What is proved

* `ClientConfig.ofText?_object`: the text of a configuration is read back, in both layouts.
* `Store.load_of_save`: what is saved is loaded.
* `configuration_is_kept`: the rule in one statement.
-/

namespace LedgerClient

open Json (Layout Member)

/-! ### The values of a configuration -/

theorem Network.ofName?_name (network : Network) : ofName? network.name = some network := by
  cases network <;> decide

namespace ClientConfig

/-- The network as it is read. -/
def networkJson (c : ClientConfig) : Json :=
  (c.network.map fun network => Json.string (some network.name)).getD .null

/-- The endpoint as it is read. -/
def endpointJson (c : ClientConfig) : Json :=
  (c.endpoint.map fun text => Json.string (some text)).getD .null

theorem token_networkJson (c : ClientConfig) :
    Json.Token (Json.orNull Network.jsonText c.network) c.networkJson := by
  have hname : ∀ network : Network,
      Json.Token network.jsonText (.string (some network.name)) := by
    intro network
    rw [Network.jsonText]
    exact Json.token_quote network.name
  rw [networkJson]
  exact Json.token_orNull hname c.network

theorem token_endpointJson (c : ClientConfig) :
    Json.Token (Json.orNull Json.quote c.endpoint) c.endpointJson := by
  rw [endpointJson]
  exact Json.token_orNull Json.token_quote c.endpoint

/-- The members of a configuration as they are written and read. -/
def jsonMembers (c : ClientConfig) : List Member :=
  [⟨"network", _, _, c.token_networkJson⟩,
   ⟨"chain_endpoint", _, _, c.token_endpointJson⟩,
   ⟨"block_time_secs", _, _, Json.token_naturalText c.blockTimeSecs.toNat⟩,
   ⟨"connect_timeout_secs", _, _, Json.token_naturalText c.connectTimeoutSecs.toNat⟩]

theorem members_eq (c : ClientConfig) : c.members = c.jsonMembers.map Member.written := rfl

theorem optional?_networkJson (c : ClientConfig) :
    Json.optional? Network.ofJson? c.networkJson = some c.network := by
  cases h : c.network with
  | none => simp [networkJson, h, Json.optional?]
  | some network =>
    simp [networkJson, h, Json.optional?, Network.ofJson?, Json.tag?, Network.ofName?_name]

theorem optional?_endpointJson (c : ClientConfig) :
    Json.optional? Json.text? c.endpointJson = some c.endpoint := by
  cases h : c.endpoint with
  | none => simp [endpointJson, h, Json.optional?]
  | some text => simp [endpointJson, h, Json.optional?, Json.text?]

theorem uint64?_natural (n : UInt64) : Json.uint64? (.natural n.toNat) = some n := by
  rw [Json.uint64?, if_pos n.toNat_lt, UInt64.ofNat_toNat]

/-- The members of a configuration give it back. -/
theorem ofMembers?_read (c : ClientConfig) :
    ofMembers? (c.jsonMembers.map Member.read) = some c := by
  have hnetwork : Json.member? "network" (c.jsonMembers.map Member.read) =
      some (some c.networkJson) := rfl
  have hendpoint : Json.member? "chain_endpoint" (c.jsonMembers.map Member.read) =
      some (some c.endpointJson) := rfl
  have hblock : Json.member? "block_time_secs" (c.jsonMembers.map Member.read) =
      some (some (.natural c.blockTimeSecs.toNat)) := rfl
  have hconnect : Json.member? "connect_timeout_secs" (c.jsonMembers.map Member.read) =
      some (some (.natural c.connectTimeoutSecs.toNat)) := rfl
  have hnames : ((c.jsonMembers.map Member.read).any fun m => m.1.isNone) = false := rfl
  rw [ofMembers?, hnames]
  simp [Json.field?, hnetwork, hendpoint, hblock, hconnect, optional?_networkJson,
    optional?_endpointJson, uint64?_natural]

/-- The text of a configuration is read back, whatever its layout. -/
theorem ofText?_object (layout : Layout) (c : ClientConfig) :
    ofText? (String.ofList (layout.object c.members)) = some c := by
  rw [members_eq, ofText?, jsonMembers, layout.parse?_object]
  exact c.ofMembers?_read

theorem ofText?_compactText (c : ClientConfig) : ofText? c.compactText = some c := by
  rw [compactText, ← Layout.object_compact]
  exact ofText?_object .compact c

theorem ofText?_prettyText (c : ClientConfig) : ofText? c.prettyText = some c := by
  rw [prettyText, ← Layout.object_pretty]
  exact ofText?_object .pretty c

end ClientConfig

/-! ### The file of a configuration -/

/-- The bytes of a text hold this text. -/
theorem fromUTF8?_toUTF8 (text : String) : String.fromUTF8? text.toUTF8 = some text := by
  have hvalid : text.toUTF8.IsValidUTF8 := text.isValidUTF8
  rw [String.fromUTF8?, dif_pos hvalid]
  rfl

namespace Store

/-- Where a configuration can be saved, its text is what stands there. -/
theorem saved_eq {c : ClientConfig} {store saved : Store} (h : store.save c = .ok saved) :
    saved = file c.prettyText.toUTF8 := by
  cases store with
  | absent =>
    cases h
    rfl
  | file content =>
    cases h
    rfl
  | directory => cases h
  | blocked => cases h

/-- What is saved is loaded. -/
theorem load_of_save {c : ClientConfig} {store saved : Store} (h : store.save c = .ok saved) :
    saved.load = .ok c := by
  rw [saved_eq h, load, fromUTF8?_toUTF8]
  dsimp only
  rw [c.ofText?_prettyText]

end Store

/-- **Configurations are kept.** Whatever a configuration holds, both its text on one line and its
text on several lines are read back as this configuration. Wherever it can be saved, it is loaded
afterwards as it was, with or without a network, and the client connects to the same target. -/
theorem configuration_is_kept (c : ClientConfig) :
    ClientConfig.ofText? c.compactText = some c ∧
    ClientConfig.ofText? c.prettyText = some c ∧
    ∀ store saved, Store.save c store = .ok saved →
      saved.load = .ok c ∧ saved.load.map ClientConfig.target = .ok c.target := by
  refine ⟨c.ofText?_compactText, c.ofText?_prettyText, fun store saved h => ?_⟩
  have hload : saved.load = .ok c := Store.load_of_save h
  refine ⟨hload, ?_⟩
  rw [hload]
  rfl

/-- A configuration without a network, and an endpoint with quotes, a backslash, controls and
characters beyond 16 bits. -/
def awkwardConfig : ClientConfig :=
  ⟨none, some "\"a\\b\"\n\x00\x1f\x7f é𝄞", 0, 18446744073709551615⟩

/-- It is kept, and its network does not turn into the standard one. -/
theorem configuration_is_kept_of_awkward :
    ∃ saved, Store.save awkwardConfig .absent = .ok saved ∧ saved.load = .ok awkwardConfig ∧
      awkwardConfig.network = none ∧ ClientConfig.standard.network ≠ none := by
  obtain ⟨-, -, hsaved⟩ := configuration_is_kept awkwardConfig
  exact ⟨_, rfl, (hsaved .absent _ rfl).1, rfl, by decide⟩

end LedgerClient
