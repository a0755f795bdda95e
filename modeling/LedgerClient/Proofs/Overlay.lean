import LedgerClient.Proofs.ConfigText
import LedgerClient.Proofs.JsonReading
import Mathlib.Tactic.MkIffOfInductiveProp

/-!
# Configurations are laid over the standard one

A text that gives some of the settings is read as the standard configuration with these settings replaced
and no other. An object gives a setting by its name, wherever the member stands and whatever else stands
around it; an array gives the first settings in order. A literal for nothing in place of the network or
the endpoint is given as well, and it is not replaced by the standard value. A text that gives a setting
twice, or with a value of another type, or more than all four, is refused as a whole.

## The model

`Json.Grammar.Element` says which texts are JSON, and for which value. `Gives j name v` says that the value
gives `v` for the setting of this name, `OfType name v` that the setting can have this value, and
`Acceptable j` that the value gives each setting once at most and with a value of its type. The
configuration that comes out is described by `Overlay`, setting by setting: it has what is given, or what
the standard one has where nothing is.

## What is proved

* `Json.field?_eq_some_iff`, `Json.item?_eq_some_iff`: a member and an item are read as a setting.
* `ofJson?_eq_some_iff`: a value is read as the configuration that it describes, if it is acceptable.
* `Acceptable.exists_overlay`: every acceptable value describes one.
* `configuration_overlays_standard`: the rule in one statement.
-/

namespace LedgerClient

namespace Json

variable {α : Type} {j : Json} {name : String} {members : List (Option String × Json)}
  {items : List Json} {decode : Json → Option α} {fallback a : α}

/-- `Setting given Is fallback a`: every value that is given is this one, and where none is given this is
the fallback. -/
structure Setting (given : Json → Prop) (Is : Json → α → Prop) (fallback a : α) : Prop where
  /-- What is given. -/
  of_given : ∀ j, given j → Is j a
  /-- What stands in for it. -/
  of_not_given : (∀ j, ¬ given j) → a = fallback

section Setting

variable {given : Json → Prop} {Is : Json → α → Prop}

/-- Where one value is given, it is the setting. -/
theorem setting_iff_of_given (h : ∀ v, given v ↔ v = j) : Setting given Is fallback a ↔ Is j a := by
  constructor
  · intro hset
    exact hset.of_given j ((h j).mpr rfl)
  · intro ha
    refine ⟨fun v hv => ?_, fun hnone => absurd ((h j).mpr rfl) (hnone j)⟩
    rw [(h v).mp hv]
    exact ha

/-- Where none is given, the fallback is. -/
theorem setting_iff_of_not_given (h : ∀ v, ¬ given v) :
    Setting given Is fallback a ↔ a = fallback := by
  constructor
  · intro hset
    exact hset.of_not_given h
  · intro ha
    exact ⟨fun v hv => absurd hv (h v), fun _ => ha⟩

/-- Where one value at most is given, and of the right type, there is a setting. -/
theorem exists_setting (fallback : α) (hunique : ∀ v v', given v → given v' → v = v')
    (his : ∀ v, given v → ∃ a, Is v a) : ∃ a, Setting given Is fallback a := by
  by_cases h : ∃ v, given v
  · obtain ⟨v, hv⟩ := h
    obtain ⟨a, ha⟩ := his v hv
    refine ⟨a, (setting_iff_of_given fun v' => ⟨fun hv' => hunique v' v hv' hv, ?_⟩).mpr ha⟩
    rintro rfl
    exact hv
  · rw [not_exists] at h
    exact ⟨fallback, (setting_iff_of_not_given h).mpr rfl⟩

end Setting

/-! ### Members and items -/

/-- The members of a name are as many as the name occurs. -/
theorem count_name (name : String) (members : List (Option String × Json)) :
    (members.map Prod.fst).count (some name) =
      (members.filter fun m => m.1 == some name).length := by
  rw [List.count, List.countP_map, List.countP_eq_length_filter]
  rfl

/-- Where a name occurs once at most, there is one member of it at most. -/
theorem eq_of_count_le_one {v v' : Json} (h : (members.map Prod.fst).count (some name) ≤ 1)
    (hv : (some name, v) ∈ members) (hv' : (some name, v') ∈ members) : v = v' := by
  have hmem : ∀ {u}, (some name, u) ∈ members →
      (some name, u) ∈ members.filter fun m => m.1 == some name := by simp
  rw [count_name] at h
  have hv := hmem hv
  have hv' := hmem hv'
  generalize members.filter (fun m => m.1 == some name) = named at h hv hv'
  rcases named with _ | ⟨m, _ | ⟨m', more⟩⟩
  · cases hv
  · rw [List.mem_singleton] at hv hv'
    exact (Prod.mk.inj (hv.trans hv'.symm)).2
  · simp at h

/-- A member is read as a setting, unless there are two of its name. -/
theorem field?_eq_some_iff :
    field? name decode fallback members = some a ↔
      (members.map Prod.fst).count (some name) ≤ 1 ∧
        Setting (fun j => (some name, j) ∈ members) (fun j a => decode j = some a) fallback a := by
  have hmem : ∀ j, (some name, j) ∈ members ↔
      (some name, j) ∈ members.filter fun m => m.1 == some name := by simp
  have hname : ∀ m ∈ members.filter fun m => m.1 == some name, m.1 = some name := by simp
  rw [count_name, field?, member?]
  simp only [hmem]
  generalize members.filter (fun m => m.1 == some name) = named at hname
  -- No member of the name, one, or more than one.
  rcases named with _ | ⟨⟨content, v⟩, _ | ⟨m, more⟩⟩
  · rw [setting_iff_of_not_given fun v => List.not_mem_nil]
    simp [eq_comm]
  · obtain rfl : content = some name := hname _ List.mem_cons_self
    rw [setting_iff_of_given (j := v) fun v' => by simp]
    simp
  · simp

/-- So is an item. -/
theorem item?_eq_some_iff {k : Nat} :
    item? k decode fallback items = some a ↔
      Setting (fun j => items[k]? = some j) (fun j a => decode j = some a) fallback a := by
  rw [item?]
  cases items[k]? with
  | none =>
    rw [setting_iff_of_not_given (by simp)]
    simp [eq_comm]
  | some v =>
    rw [setting_iff_of_given (j := v) fun v' => by simp [eq_comm]]

/-! ### Values of a setting -/

/-- A value that may be absent. -/
inductive Nullable (Is : Json → α → Prop) : Json → Option α → Prop where
  /-- The literal for nothing. -/
  | null : Nullable Is .null none
  /-- A value. -/
  | some {j : Json} {a : α} : Is j a → Nullable Is j (some a)

/-- A string with this text. -/
inductive IsText : Json → String → Prop where
  /-- The text. -/
  | mk {text : String} : IsText (.string (some text)) text

/-- A natural number of 64 bits. -/
inductive IsNumber : Json → UInt64 → Prop where
  /-- The number. -/
  | mk {n : UInt64} : IsNumber (.natural n.toNat) n

/-- The name of an alternative, alone or as the name of a member without a value. -/
inductive IsTag : Json → String → Prop where
  /-- The name alone. -/
  | text {name : String} : IsTag (.string (some name)) name
  /-- The name with nothing. -/
  | member {name : String} : IsTag (.object [(some name, .null)]) name

theorem text?_eq_some_iff {text : String} : j.text? = some text ↔ IsText j text := by
  constructor
  · intro h
    cases j with
    | string content =>
      cases h
      exact .mk
    | _ => cases h
  · rintro ⟨⟩
    rfl

theorem uint64?_eq_some_iff {n : UInt64} : j.uint64? = some n ↔ IsNumber j n := by
  constructor
  · intro h
    cases j with
    | natural m =>
      rw [uint64?] at h
      split at h
      · next hlt =>
        cases h
        have hread := IsNumber.mk (n := UInt64.ofNat m)
        rw [UInt64.toNat_ofNat_of_lt' hlt] at hread
        exact hread
      · cases h
    | _ => cases h
  · rintro ⟨⟩
    exact ClientConfig.uint64?_natural n

theorem tag?_eq_some_iff : j.tag? = some name ↔ IsTag j name := by
  constructor
  · intro h
    unfold tag? at h
    split at h
    · cases h
      exact .text
    · cases h
      exact .member
    · cases h
  · rintro ⟨⟩
    · rfl
    · rfl

theorem optional?_eq_some_iff {Is : Json → α → Prop} (hdecode : ∀ j a, decode j = some a ↔ Is j a)
    (hnull : ∀ a, ¬ Is .null a) {o : Option α} :
    optional? decode j = some o ↔ Nullable Is j o := by
  constructor
  · intro h
    unfold optional? at h
    split at h
    · cases h
      exact .null
    · obtain ⟨a, ha, rfl⟩ := Option.map_eq_some_iff.mp h
      exact .some ((hdecode _ _).mp ha)
  · intro h
    cases h with
    | null => rfl
    | @some j a ha =>
      unfold optional?
      split
      · exact absurd ha (hnull a)
      · rw [(hdecode _ _).mpr ha, Option.map_some]

end Json

/-- The name of a network. -/
def IsNetwork (j : Json) (network : Network) : Prop := Json.IsTag j network.name

theorem Network.ofName?_eq_some_iff {text : String} {network : Network} :
    ofName? text = some network ↔ network.name = text := by
  constructor
  · intro h
    simpa using List.find?_some h
  · rintro rfl
    exact ofName?_name network

theorem Network.ofJson?_eq_some_iff {j : Json} {network : Network} :
    ofJson? j = some network ↔ IsNetwork j network := by
  rw [ofJson?, Option.bind_eq_some_iff, IsNetwork, ← Json.tag?_eq_some_iff]
  simp [ofName?_eq_some_iff]

namespace ClientConfig

open Json (Setting Nullable IsText IsNumber)

/-! ### What a value gives -/

/-- The names of the settings, in the order of an array. -/
def settingNames : List String :=
  ["network", "chain_endpoint", "block_time_secs", "connect_timeout_secs"]

/-- `Gives j name v`: the value gives `v` for the setting of this name. -/
inductive Gives : Json → String → Json → Prop where
  /-- An object gives what its members say. -/
  | member {members : List (Option String × Json)} {name : String} {v : Json} :
      (some name, v) ∈ members → Gives (.object members) name v
  /-- An array gives the settings in order. -/
  | item {items : List Json} {k : Nat} {name : String} {v : Json} :
      settingNames[k]? = some name → items[k]? = some v → Gives (.array items) name v

/-- `OfType name v`: if there is a setting of this name, it can have this value. -/
structure OfType (name : String) (v : Json) : Prop where
  /-- A network, or none. -/
  network : name = "network" → ∃ network, Nullable IsNetwork v network
  /-- An endpoint, or none. -/
  endpoint : name = "chain_endpoint" → ∃ endpoint, Nullable IsText v endpoint
  /-- The time between blocks. -/
  blockTime : name = "block_time_secs" → ∃ n, IsNumber v n
  /-- The time that a connection may take. -/
  connectTimeout : name = "connect_timeout_secs" → ∃ n, IsNumber v n

/-- Each setting is given once at most, and with a value of its type. -/
inductive Acceptable : Json → Prop where
  /-- In an object no name of a setting is repeated, and every name is a text. -/
  | object {members : List (Option String × Json)} :
      (∀ m ∈ members, m.1 ≠ none) →
      (∀ name ∈ settingNames, (members.map Prod.fst).count (some name) ≤ 1) →
      (∀ name v, Gives (.object members) name v → OfType name v) →
      Acceptable (.object members)
  /-- An array does not go on behind the settings. -/
  | array {items : List Json} :
      items.length ≤ settingNames.length →
      (∀ name v, Gives (.array items) name v → OfType name v) →
      Acceptable (.array items)

/-- The configuration has the settings that are given, and those of the standard one otherwise. -/
@[mk_iff]
structure Overlay (given : String → Json → Prop) (c : ClientConfig) : Prop where
  /-- The network. -/
  network : Setting (given "network") (Nullable IsNetwork) standard.network c.network
  /-- The endpoint. -/
  endpoint : Setting (given "chain_endpoint") (Nullable IsText) standard.endpoint c.endpoint
  /-- The time between blocks. -/
  blockTime : Setting (given "block_time_secs") IsNumber standard.blockTimeSecs c.blockTimeSecs
  /-- The time that a connection may take. -/
  connectTimeout :
    Setting (given "connect_timeout_secs") IsNumber standard.connectTimeoutSecs c.connectTimeoutSecs

/-! ### What is read -/

section Reading

variable {j : Json} {members : List (Option String × Json)} {items : List Json} {c : ClientConfig}

theorem optional?_network {network : Option Network} :
    Json.optional? Network.ofJson? j = some network ↔ Nullable IsNetwork j network :=
  Json.optional?_eq_some_iff (fun _ _ => Network.ofJson?_eq_some_iff) fun _ h => by cases h

theorem optional?_text {text : Option String} :
    Json.optional? Json.text? j = some text ↔ Nullable IsText j text :=
  Json.optional?_eq_some_iff (fun _ _ => Json.text?_eq_some_iff) fun _ h => by cases h

theorem gives_object {name : String} {v : Json} :
    Gives (.object members) name v ↔ (some name, v) ∈ members := by
  constructor
  · rintro ⟨h⟩
    exact h
  · exact .member

/-- Each name stands for one item. -/
theorem gives_array {k : Nat} {name : String} (hname : settingNames[k]? = some name) {v : Json} :
    Gives (.array items) name v ↔ items[k]? = some v := by
  constructor
  · intro h
    cases h with
    | item hname' hitem =>
      have hlt := (List.getElem?_eq_some_iff.mp hname).1
      rw [(List.getElem?_inj hlt (by decide)).mp (hname.trans hname'.symm)]
      exact hitem
  · exact .item hname

/-- Members are read as the configuration that they describe. -/
theorem ofMembers?_eq_some_iff :
    ofMembers? members = some c ↔ (∀ m ∈ members, m.1 ≠ none) ∧
      (∀ name ∈ settingNames, (members.map Prod.fst).count (some name) ≤ 1) ∧
      Overlay (Gives (.object members)) c := by
  have hnames : (members.any fun m => m.1.isNone) = true ↔ ¬ ∀ m ∈ members, m.1 ≠ none := by
    simp
  have hgives : ∀ name, Gives (.object members) name = fun v => (some name, v) ∈ members :=
    fun name => funext fun v => propext gives_object
  rw [ofMembers?]
  split
  · next hany =>
    constructor
    · intro h
      cases h
    · rintro ⟨hall, -⟩
      exact absurd hall (hnames.mp hany)
  · next hall =>
    rw [hnames, not_not] at hall
    simp only [Option.bind_eq_bind, Option.bind_eq_some_iff, Json.field?_eq_some_iff,
      optional?_network, optional?_text, Json.uint64?_eq_some_iff, Option.pure_def,
      Option.some.injEq, settingNames, List.forall_mem_cons, overlay_iff, hgives]
    have hend : ∀ name ∈ ([] : List String), (members.map Prod.fst).count (some name) ≤ 1 := by simp
    constructor
    · rintro ⟨_, ⟨hcount₁, h₁⟩, _, ⟨hcount₂, h₂⟩, _, ⟨hcount₃, h₃⟩, _, ⟨hcount₄, h₄⟩, rfl⟩
      exact ⟨hall, ⟨hcount₁, hcount₂, hcount₃, hcount₄, hend⟩, h₁, h₂, h₃, h₄⟩
    · rintro ⟨-, ⟨hcount₁, hcount₂, hcount₃, hcount₄, -⟩, h₁, h₂, h₃, h₄⟩
      exact ⟨_, ⟨hcount₁, h₁⟩, _, ⟨hcount₂, h₂⟩, _, ⟨hcount₃, h₃⟩, _, ⟨hcount₄, h₄⟩, rfl⟩

/-- So are items. -/
theorem ofItems?_eq_some_iff :
    ofItems? items = some c ↔
      items.length ≤ settingNames.length ∧ Overlay (Gives (.array items)) c := by
  have hgives : ∀ {k name}, settingNames[k]? = some name →
      Gives (.array items) name = fun v => items[k]? = some v :=
    fun hname => funext fun v => propext (gives_array hname)
  rw [ofItems?, overlay_iff, hgives (k := 0) rfl, hgives (k := 1) rfl, hgives (k := 2) rfl,
    hgives (k := 3) rfl]
  split
  · next hlong =>
    constructor
    · intro h
      cases h
    · rintro ⟨hshort, -⟩
      exact absurd hlong (Nat.not_lt_of_le hshort)
  · next hshort =>
    simp only [Option.bind_eq_bind, Option.bind_eq_some_iff, Json.item?_eq_some_iff,
      optional?_network, optional?_text, Json.uint64?_eq_some_iff, Option.pure_def,
      Option.some.injEq]
    constructor
    · rintro ⟨_, h₁, _, h₂, _, h₃, _, h₄, rfl⟩
      exact ⟨Nat.le_of_not_lt hshort, h₁, h₂, h₃, h₄⟩
    · rintro ⟨-, h₁, h₂, h₃, h₄⟩
      exact ⟨_, h₁, _, h₂, _, h₃, _, h₄, rfl⟩

/-- What a configuration is laid over with has the types of its settings. -/
theorem Overlay.ofType {given : String → Json → Prop} (h : Overlay given c) {name : String}
    {v : Json} (hv : given name v) : OfType name v where
  network := fun hname => ⟨_, h.network.of_given v (hname ▸ hv)⟩
  endpoint := fun hname => ⟨_, h.endpoint.of_given v (hname ▸ hv)⟩
  blockTime := fun hname => ⟨_, h.blockTime.of_given v (hname ▸ hv)⟩
  connectTimeout := fun hname => ⟨_, h.connectTimeout.of_given v (hname ▸ hv)⟩

/-- A value is read as the configuration that it describes, if it is acceptable. -/
theorem ofJson?_eq_some_iff : ofJson? j = some c ↔ Acceptable j ∧ Overlay (Gives j) c := by
  cases j with
  | object members =>
    rw [ofJson?, ofMembers?_eq_some_iff]
    constructor
    · rintro ⟨hnames, hcount, h⟩
      exact ⟨.object hnames hcount fun name v => h.ofType, h⟩
    · rintro ⟨⟨hnames, hcount, -⟩, h⟩
      exact ⟨hnames, hcount, h⟩
  | array items =>
    rw [ofJson?, ofItems?_eq_some_iff]
    constructor
    · rintro ⟨hlength, h⟩
      exact ⟨.array hlength fun name v => h.ofType, h⟩
    · rintro ⟨hacceptable, h⟩
      cases hacceptable with
      | array hlength _ => exact ⟨hlength, h⟩
  | _ =>
    constructor
    · intro h
      cases h
    · rintro ⟨⟨⟩, -⟩

/-- An acceptable value gives values of the types of the settings. -/
theorem Acceptable.ofType (h : Acceptable j) {name : String} {v : Json} (hv : Gives j name v) :
    OfType name v := by
  cases h with
  | object _ _ htype => exact htype name v hv
  | array _ htype => exact htype name v hv

/-- It gives one value for a setting at most. -/
theorem Acceptable.unique (h : Acceptable j) {name : String} (hname : name ∈ settingNames)
    {v v' : Json} (hv : Gives j name v) (hv' : Gives j name v') : v = v' := by
  cases h with
  | object _ hcount _ =>
    exact Json.eq_of_count_le_one (hcount name hname) (gives_object.mp hv) (gives_object.mp hv')
  | array _ _ =>
    obtain ⟨k, hk⟩ := List.mem_iff_getElem?.mp hname
    exact Option.some.inj (((gives_array hk).mp hv).symm.trans ((gives_array hk).mp hv'))

/-- Every acceptable value describes a configuration. -/
theorem Acceptable.exists_overlay (h : Acceptable j) : ∃ c, Overlay (Gives j) c := by
  have hsetting : ∀ {α : Type} {name : String} {Is : Json → α → Prop} (fallback : α),
      name ∈ settingNames → (∀ v, OfType name v → ∃ a, Is v a) →
      ∃ a, Setting (Gives j name) Is fallback a := by
    intro α name Is fallback hname his
    exact Json.exists_setting fallback (fun v v' => h.unique hname) fun v hv => his v (h.ofType hv)
  obtain ⟨network, h₁⟩ := hsetting standard.network (by decide) fun v hv => hv.network rfl
  obtain ⟨endpoint, h₂⟩ := hsetting standard.endpoint (by decide) fun v hv => hv.endpoint rfl
  obtain ⟨block, h₃⟩ := hsetting standard.blockTimeSecs (by decide) fun v hv => hv.blockTime rfl
  obtain ⟨connect, h₄⟩ :=
    hsetting standard.connectTimeoutSecs (by decide) fun v hv => hv.connectTimeout rfl
  exact ⟨⟨network, endpoint, block, connect⟩, h₁, h₂, h₃, h₄⟩

theorem ofJson?_eq_none_iff : ofJson? j = none ↔ ¬ Acceptable j := by
  rw [Option.eq_none_iff_forall_ne_some]
  constructor
  · intro h hacceptable
    obtain ⟨c, hc⟩ := hacceptable.exists_overlay
    exact h c (ofJson?_eq_some_iff.mpr ⟨hacceptable, hc⟩)
  · intro h c hc
    exact h (ofJson?_eq_some_iff.mp hc).1

end Reading

end ClientConfig

open ClientConfig (Acceptable Gives Overlay)

/-- **Configurations are laid over the standard one.** A JSON text that gives each setting once at most,
and with a value of its type, under names that denote texts, is read as the configuration that has the
given settings and is the standard one otherwise, in whatever order they are given and whatever else the
text holds. Every other JSON text is refused. -/
theorem configuration_overlays_standard {text : String} {j : Json}
    (h : Json.Grammar.Element text.toList j) :
    (∀ c, ClientConfig.ofText? text = some c ↔ Acceptable j ∧ Overlay (Gives j) c) ∧
    (Acceptable j → ∃ c, ClientConfig.ofText? text = some c) ∧
    (¬ Acceptable j → ClientConfig.ofText? text = none) := by
  have hread : ClientConfig.ofText? text = ClientConfig.ofJson? j := by
    rw [ClientConfig.ofText?, Json.parse?_eq_some_iff.mpr h, Option.bind_some]
  rw [hread]
  refine ⟨fun c => ClientConfig.ofJson?_eq_some_iff, fun hacceptable => ?_,
    ClientConfig.ofJson?_eq_none_iff.mpr⟩
  obtain ⟨c, hc⟩ := hacceptable.exists_overlay
  exact ⟨c, ClientConfig.ofJson?_eq_some_iff.mpr ⟨hacceptable, hc⟩⟩

/-- No network and a time between blocks, behind an unknown member with a network of its own. -/
def sparseText : String :=
  "\x7b\"later\":[\x7b\"network\":\"akira\"\x7d], \"network\":null,\"block_time_secs\": 12\x7d"

/-- What this text is read as. -/
def sparseMembers : List (Option String × Json) :=
  [(some "later", .array [.object [(some "network", .string (some "akira"))]]),
    (some "network", .null), (some "block_time_secs", .natural 12)]

/-- No network twice, once with an escape in its name. -/
def repeatedText : String := "\x7b\"network\":null,\"\\u006eetwork\":null\x7d"

/-- The first text gives what it says and the standard values for the rest, and the second one is
refused. -/
theorem configuration_overlays_standard_of_sparse :
    ClientConfig.ofText? sparseText =
      some { ClientConfig.standard with network := none, blockTimeSecs := 12 } ∧
    ClientConfig.ofText? repeatedText = none := by
  have hsparse : Json.Grammar.Element sparseText.toList (.object sparseMembers) := by
    rw [← Json.parse?_eq_some_iff, Json.parse?, sparseText]
    simp only [String.reduceToList]
    rfl
  have hrepeated : Json.Grammar.Element repeatedText.toList
      (.object [(some "network", .null), (some "network", .null)]) := by
    rw [← Json.parse?_eq_some_iff, Json.parse?, repeatedText]
    simp only [String.reduceToList]
    rfl
  have hread : ClientConfig.ofJson? (.object sparseMembers) =
      some { ClientConfig.standard with network := none, blockTimeSecs := 12 } := by rfl
  refine ⟨?_, ?_⟩
  · exact ((configuration_overlays_standard hsparse).1 _).mpr
      (ClientConfig.ofJson?_eq_some_iff.mp hread)
  · refine (configuration_overlays_standard hrepeated).2.2 fun h => ?_
    cases h with
    | object _ hcount _ => exact absurd (hcount "network" (by decide)) (by decide)

end LedgerClient
