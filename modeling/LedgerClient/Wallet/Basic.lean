import LedgerClient.Call
import LedgerClient.Wallet.SecretUri

/-!
# Wallets

A participant has two signing identities: the hotkey for operations and the coldkey for custody.
Only the public half of a key is kept here; the secret half never leaves the signer.

How a key is derived from a secret URI is a matter of the signature scheme and of the signer library
that implements it, which is outside this library. A wallet is made by whatever derivation it is given
(`Wallet.ofUrisBy`). The derivation that the rest goes by is a table (`SigningKey.ofUri?`): it stands for
what the signer library gives for the phrase for development and for the six participants whose keys are
derived from that phrase, and it knows no other URI. The fault that names an unlisted URI is one of the
table and not one of the signer library. Nothing that is proved here depends on how keys are derived.
-/

namespace LedgerClient

/-- A signing key, by its public half. -/
structure SigningKey where
  /-- The public key, which is the account of the key. -/
  account : AccountId
  deriving DecidableEq

namespace SigningKey

/-- Known results of the derivation: the path that leads to a key from the phrase for development, and
the public key in base 16. -/
def listed : List (String × String) :=
  [("", "46ebddef8cd9bb167dc30878d7113b7e168e6f0646beffd77d69d39bad76b47a"),
   ("//Alice", "d43593c715fdd31c61141abd04a99fd6822c8558854ccde39a5684e7a56da27d"),
   ("//Bob", "8eaf04151687736326c9fea17e25fc5287613693c912909cb226aa4794f26a48"),
   ("//Charlie", "90b5ab205c6974c9ea841be688864633dc9ca8a357843eeacf2314649965fe22"),
   ("//Dave", "306721211d5404bd9da88e0204360a1a9ab8b87c66c1bc2fcdd37f3c2222cc20"),
   ("//Eve", "e659a7a1628cdd93febc04a4e0646ea20e9f5f0ce097d9a05290d4a9e054df4e"),
   ("//Ferdie", "1cbd2d43530a44705ad088af313e18f80b53ef16b36177cd4b77b846f2a5f07c")]

/-- The derivation as far as it is listed. -/
def ofUri? (uri : SecretUri) : Option SigningKey :=
  if uri.phrase.isSome || uri.password.isSome then none
  else do
    let (_, digits) ← listed.find? fun entry => entry.1 == String.ofList uri.path
    let bytes ← Bytes.ofHex? digits
    let account ← Octets.ofList? 32 bytes
    return ⟨account⟩

/-- The key that is derived from a secret URI, or the fault that names the text of the URI. -/
def ofUriBy (derive : SecretUri → Option SigningKey) (text : String) (uri : SecretUri) :
    Except Error SigningKey :=
  match derive uri with
  | some key => .ok key
  | none => .error (.invalidArgument (.key (.unlisted text)))

end SigningKey

/-- The two signing identities of a participant. -/
structure Wallet where
  /-- The operational key. -/
  hotkey : SigningKey
  /-- The custodial key. -/
  coldkey : SigningKey
  deriving DecidableEq

namespace Wallet

/-- The wallet of two secret URIs. Both are read before a key is derived. -/
def ofUrisBy (derive : SecretUri → Option SigningKey) (hotkey coldkey : String) :
    Except Error Wallet :=
  match SecretUri.read hotkey, SecretUri.read coldkey with
  | .error e, _ => .error e
  | .ok _, .error e => .error e
  | .ok hot, .ok cold =>
    match SigningKey.ofUriBy derive hotkey hot, SigningKey.ofUriBy derive coldkey cold with
    | .error e, _ => .error e
    | .ok _, .error e => .error e
    | .ok hotkey, .ok coldkey => .ok ⟨hotkey, coldkey⟩

/-- The wallet of two secret URIs of which the keys are listed. -/
def ofUris (hotkey coldkey : String) : Except Error Wallet :=
  ofUrisBy SigningKey.ofUri? hotkey coldkey

/-- The key that signs calls of a role. -/
def key (w : Wallet) : KeyRole → SigningKey
  | .hotkey => w.hotkey
  | .coldkey => w.coldkey

/-- How a wallet is shown: by the addresses of its accounts. -/
def text (w : Wallet) : String :=
  "Wallet \x7b hotkey: " ++ Text.quoted w.hotkey.account.address ++ ", coldkey: " ++
    Text.quoted w.coldkey.account.address ++ " \x7d"

end Wallet

end LedgerClient
