import LedgerClient.Client.Basic
import LedgerClient.Proofs.ConfigText
import LedgerClient.Proofs.RoundTrip

/-!
# Making a client of a configuration

A configuration makes a client, unless it names nothing to connect to. Its client waits for three block
times, in reads and in submissions, and connects to what the configuration says.

A block time may be any number of seconds of 64 bits, but three of them are not always one. If they are
not, the program stops when it works out the time limit. This comes first, so it does not matter whether
there would have been something to connect to.

## The model

`ClientConfig.submissionTimeout?` is none, and `Client.ofConfig` is `SetupFault.overflow`, where the
program stops. `ClientConfig.NamesNothing` says that there is nothing to connect to.

## What is proved

* `ClientConfig.target_eq_endpoint_iff`, `ClientConfig.target_eq_network_iff`,
  `ClientConfig.target_eq_error_iff`: what a configuration connects to.
* `ClientConfig.submissionTimeout?_eq_some_iff`, `ClientConfig.submissionTimeout?_eq_none_iff`: when three
  block times are a time limit.
* `client_of_config`: when a configuration makes a client, which one, and what comes of it otherwise.
* `overlong_block_time_stops_setup`: a configuration at which the program stops.
-/

namespace LedgerClient

/-! ### What to connect to -/

namespace ClientConfig

/-- There is no network, and no endpoint with anything but blanks in it. -/
structure NamesNothing (c : ClientConfig) : Prop where
  /-- There is no network. -/
  network : c.network = none
  /-- An endpoint is nothing but blanks. -/
  endpoint : ∀ text, c.endpoint = some text → Text.Blanks text.toList

variable {c : ClientConfig} {address : String}

theorem bareEndpoint?_eq_some_iff :
    c.bareEndpoint? = some address ↔
      ∃ text, c.endpoint = some text ∧ ¬ Text.Blanks text.toList ∧ Text.trim text = address := by
  rw [bareEndpoint?]
  cases c.endpoint with
  | none => simp
  | some text =>
    by_cases hblanks : Text.Blanks text.toList <;> simp [Text.trim_eq_empty_iff, hblanks]

theorem bareEndpoint?_eq_none_iff :
    c.bareEndpoint? = none ↔ ∀ text, c.endpoint = some text → Text.Blanks text.toList := by
  rw [Option.eq_none_iff_forall_ne_some]
  constructor
  · intro h text htext
    by_contra hbare
    exact h _ (bareEndpoint?_eq_some_iff.mpr ⟨text, htext, hbare, rfl⟩)
  · intro h address hbare
    obtain ⟨text, htext, hbare, -⟩ := bareEndpoint?_eq_some_iff.mp hbare
    exact hbare (h text htext)

theorem target_eq_endpoint_iff :
    c.target = .ok (.endpoint address) ↔ c.bareEndpoint? = some address := by
  rw [target]
  cases c.bareEndpoint? with
  | some bare => simp
  | none => cases c.network <;> simp

theorem target_eq_network_iff {network : Network} :
    c.target = .ok (.network network) ↔ c.bareEndpoint? = none ∧ c.network = some network := by
  rw [target]
  cases c.bareEndpoint? with
  | some bare => simp
  | none => cases c.network <;> simp

theorem target_eq_error_iff {e : ConfigError} :
    c.target = .error e ↔ c.NamesNothing ∧ e = .noTarget := by
  have hnothing : c.NamesNothing ↔ c.bareEndpoint? = none ∧ c.network = none := by
    rw [bareEndpoint?_eq_none_iff]
    exact ⟨fun h => ⟨h.endpoint, h.network⟩, fun h => ⟨h.2, h.1⟩⟩
  rw [hnothing, target]
  cases c.bareEndpoint? with
  | some bare => simp
  | none => cases c.network <;> simp [eq_comm]

/-- What names something leads to something. -/
theorem exists_target_eq_ok_iff : (∃ t, c.target = .ok t) ↔ ¬ c.NamesNothing := by
  constructor
  · rintro ⟨t, ht⟩ hnothing
    rw [target_eq_error_iff.mpr ⟨hnothing, rfl⟩] at ht
    cases ht
  · intro hnames
    cases ht : c.target with
    | ok t => exact ⟨t, rfl⟩
    | error e => exact absurd (target_eq_error_iff.mp ht).1 hnames

/-! ### Three block times -/

theorem submissionTimeout?_eq_none_iff :
    c.submissionTimeout? = none ↔ UInt64.size ≤ 3 * c.blockTimeSecs.toNat := by
  rw [submissionTimeout?]
  split
  · next hlt => simp [hlt]
  · next hlarge => simpa using hlarge

theorem submissionTimeout?_eq_some_iff {limit : Millis} :
    c.submissionTimeout? = some limit ↔
      3 * c.blockTimeSecs.toNat < UInt64.size ∧ limit = 3 * c.blockTime := by
  have hthree : seconds (3 * c.blockTimeSecs.toNat) = 3 * c.blockTime := Nat.mul_left_comm _ _ _
  rw [submissionTimeout?, hthree]
  split
  · next hlt => simp [hlt, eq_comm]
  · next hlarge => simp [hlarge]

end ClientConfig

/-! ### The client -/

namespace Client

variable {config : ClientConfig} {words : WordSource}

/-- The client for a target with the time limits of a configuration. -/
def configured (config : ClientConfig) (target : Target) (words : WordSource) : Client :=
  { start target words with
    connectTimeout := config.connectTimeout
    queryTimeout := 3 * config.blockTime
    submissionTimeout := 3 * config.blockTime }

/-- The program stops, or it refuses the configuration, or it makes the client that was asked for. -/
theorem ofConfig_cases (config : ClientConfig) (words : WordSource) :
    (UInt64.size ≤ 3 * config.blockTimeSecs.toNat ∧ ofConfig config words = .error .overflow) ∨
    3 * config.blockTimeSecs.toNat < UInt64.size ∧
      (config.NamesNothing ∧ ofConfig config words = .error (.refused (.config .noTarget)) ∨
        ∃ target, config.target = .ok target ∧
          ofConfig config words = .ok (configured config target words)) := by
  rcases Nat.lt_or_ge (3 * config.blockTimeSecs.toNat) UInt64.size with hlt | hlarge
  · have htime := ClientConfig.submissionTimeout?_eq_some_iff.mpr ⟨hlt, rfl⟩
    refine .inr ⟨hlt, ?_⟩
    cases htarget : config.target with
    | error e =>
      obtain ⟨hnothing, rfl⟩ := ClientConfig.target_eq_error_iff.mp htarget
      exact .inl ⟨hnothing, by rw [ofConfig, htime, htarget]⟩
    | ok target =>
      refine .inr ⟨target, rfl, ?_⟩
      rw [ofConfig, htime, htarget]
      rfl
  · exact .inl ⟨hlarge, by rw [ofConfig, ClientConfig.submissionTimeout?_eq_none_iff.mpr hlarge]⟩

theorem ofConfig_eq_overflow_iff :
    ofConfig config words = .error .overflow ↔ UInt64.size ≤ 3 * config.blockTimeSecs.toNat := by
  rcases ofConfig_cases config words with ⟨hlarge, h⟩ | ⟨hlt, ⟨-, h⟩ | ⟨target, -, h⟩⟩
  · simp [h, hlarge]
  · simp [h, hlt]
  · simp [h, hlt]

theorem ofConfig_eq_refused_iff {e : Error} :
    ofConfig config words = .error (.refused e) ↔
      3 * config.blockTimeSecs.toNat < UInt64.size ∧ config.NamesNothing ∧
        e = .config .noTarget := by
  rcases ofConfig_cases config words with ⟨hlarge, h⟩ | ⟨hlt, ⟨hnothing, h⟩ | ⟨target, htarget, h⟩⟩
  · simp [h, Nat.not_lt.mpr hlarge]
  · simp [h, hlt, hnothing, eq_comm]
  · have hnames := ClientConfig.exists_target_eq_ok_iff.mp ⟨target, htarget⟩
    simp [h, hnames]

theorem ofConfig_eq_ok_iff {c : Client} :
    ofConfig config words = .ok c ↔
      3 * config.blockTimeSecs.toNat < UInt64.size ∧
        ∃ target, config.target = .ok target ∧ c = configured config target words := by
  rcases ofConfig_cases config words with ⟨hlarge, h⟩ | ⟨hlt, ⟨hnothing, h⟩ | ⟨target, htarget, h⟩⟩
  · simp [h, Nat.not_lt.mpr hlarge]
  · simp [h, ClientConfig.target_eq_error_iff.mpr ⟨hnothing, rfl⟩]
  · simp [h, hlt, htarget, eq_comm]

end Client

/-- **The client of a configuration.** Every configuration can come out of a JSON text. If three of its
block times are fewer seconds than 64 bits hold, that is the time limit of a submission; it makes a client
without a link, with this time limit for reads and submissions, with its own for connection attempts, and
with its own target; and it is refused only because it names nothing to connect to. If three block times
are more seconds, there is no such time limit, and the program stops when it works it out, whatever there
is to connect to. -/
theorem client_of_config (config : ClientConfig) (words : WordSource) :
    (∃ text, ClientConfig.ofText? text = some config) ∧
    (∀ limit, config.submissionTimeout? = some limit ↔
      3 * config.blockTimeSecs.toNat < UInt64.size ∧ limit = 3 * config.blockTime) ∧
    (Client.ofConfig config words = .error .overflow ↔
      UInt64.size ≤ 3 * config.blockTimeSecs.toNat) ∧
    (∀ e, Client.ofConfig config words = .error (.refused e) ↔
      3 * config.blockTimeSecs.toNat < UInt64.size ∧ config.NamesNothing ∧
        e = .config .noTarget) ∧
    ((∃ c, Client.ofConfig config words = .ok c) ↔
      3 * config.blockTimeSecs.toNat < UInt64.size ∧ ¬ config.NamesNothing) ∧
    ∀ c, Client.ofConfig config words = .ok c →
      c.queryTimeout = 3 * config.blockTime ∧ c.submissionTimeout = 3 * config.blockTime ∧
      c.connectTimeout = config.connectTimeout ∧ config.target = .ok c.target ∧ c.link = none := by
  refine ⟨⟨_, config.ofText?_compactText⟩, fun limit => ClientConfig.submissionTimeout?_eq_some_iff,
    Client.ofConfig_eq_overflow_iff, fun e => Client.ofConfig_eq_refused_iff, ?_, ?_⟩
  · simp only [Client.ofConfig_eq_ok_iff]
    constructor
    · rintro ⟨c, hlt, target, htarget, -⟩
      exact ⟨hlt, ClientConfig.exists_target_eq_ok_iff.mp ⟨target, htarget⟩⟩
    · rintro ⟨hlt, hnames⟩
      obtain ⟨target, htarget⟩ := ClientConfig.exists_target_eq_ok_iff.mpr hnames
      exact ⟨_, hlt, target, htarget, rfl⟩
  · intro c hc
    obtain ⟨-, target, htarget, rfl⟩ := Client.ofConfig_eq_ok_iff.mp hc
    exact ⟨rfl, rfl, rfl, htarget, rfl⟩

/-- With the longest block time of which three are a number of 64 bits, there is a client, and it waits
for all of the three. -/
theorem client_of_config_of_longest_block_time :
    ∃ c, Client.ofConfig ⟨none, some "a:1", 6148914691236517205, 1⟩ (.ofList []) = .ok c ∧
      c.submissionTimeout = seconds 18446744073709551615 := by
  obtain ⟨-, -, -, -, hmade, hlimits⟩ :=
    client_of_config ⟨none, some "a:1", 6148914691236517205, 1⟩ (.ofList [])
  obtain ⟨c, hc⟩ := hmade.mpr ⟨by decide, fun h => absurd (h.endpoint "a:1" rfl) (by decide)⟩
  obtain ⟨-, hlimit, -⟩ := hlimits c hc
  exact ⟨c, hc, hlimit⟩

/-- A configuration without anything to connect to, whose block time is all of the 64 bits. -/
def endlessConfig : ClientConfig := ⟨none, none, 18446744073709551615, 1⟩

/-- It can be read from a text, and it would have to be refused for naming nothing to connect to, but the
program stops before that. -/
theorem overlong_block_time_stops_setup :
    ClientConfig.ofText? endlessConfig.compactText = some endlessConfig ∧
    endlessConfig.target = .error .noTarget ∧
    endlessConfig.submissionTimeout? = none ∧
    Client.ofConfig endlessConfig (.ofList []) = .error .overflow :=
  ⟨endlessConfig.ofText?_compactText, rfl, rfl, rfl⟩

end LedgerClient
