import LedgerClient.Bytes
import LedgerClient.Error
import LedgerClient.Text.Word

/-!
# Secret URIs

A secret URI names a signing key: a phrase of words or a hexadecimal seed, a path of junctions,
and a password behind three slashes, all of them optional. Without a phrase the well-known phrase
for development stands in.

## The grammar

The phrase is made of word characters and spaces. A junction is one or two slashes and at least
one character that is not a slash. The password is the rest of the text behind three slashes and
runs over no line break.

What is read here is what the signer library accepts before it derives a key. The derivation itself
needs the cryptography of the signature scheme and is outside this library.
-/

namespace LedgerClient

/-- The parts of a secret URI. -/
structure SecretUri where
  /-- The phrase or seed, if one is given. -/
  phrase : Option (List Char)
  /-- The path, with its slashes. -/
  path : List Char
  /-- The password, if one is given. -/
  password : Option (List Char)
  deriving DecidableEq

namespace SecretUri

/-- Whether a character can stand in a phrase. -/
def isPhraseChar (c : Char) : Bool := c == ' ' || Text.isWordChar c

/-- Whether a character is not a slash. -/
def notSlash (c : Char) : Bool := c != '/'

/-- Where the reader of a path stands: how many slashes it has just passed. -/
inductive Slashes where
  /-- Inside a junction or before the first one. -/
  | none
  /-- Behind one slash. -/
  | one
  /-- Behind two slashes. -/
  | two

/-- The path and the password of the text behind the phrase. -/
def tail? : Slashes → List Char → List Char → Option (List Char × Option (List Char))
  | .none, path, [] => some (path.reverse, .none)
  | .none, path, c :: rest =>
    if c = '/' then tail? .one path rest
    else if path.isEmpty then none else tail? .none (c :: path) rest
  | .one, _, [] => none
  | .one, path, c :: rest =>
    if c = '/' then tail? .two path rest else tail? .none (c :: '/' :: path) rest
  | .two, _, [] => none
  | .two, path, c :: rest =>
    if c = '/' then
      if rest.contains '\n' then none else some (path.reverse, some rest)
    else tail? .none (c :: '/' :: '/' :: path) rest

/-- The parts of a text. -/
def parse? (text : String) : Option SecretUri :=
  let cs := text.toList
  let phrase := cs.takeWhile isPhraseChar
  match tail? .none [] (cs.dropWhile isPhraseChar) with
  | some (path, password) =>
    some ⟨if phrase.isEmpty then none else some phrase, path, password⟩
  | none => none

/-! ### Phrases -/

/-- Why a seed of hexadecimal digits is refused, if it is. -/
def seedFault? (digits : List Char) : Option KeyFault :=
  let bytes := Bytes.ofText (String.ofList digits)
  if bytes.length % 2 = 1 then some .oddDigits
  else if bytes.length ≠ 64 then some .digitCount
  else
    match bytes.findIdx? fun b => (Bytes.hexValue? (Char.ofNat b.toNat)).isNone with
    | some i => some (.digit (Char.ofNat (bytes.getD i 0).toNat) i)
    | none => none

/-- Why a phrase or seed is refused, if it is. A phrase has 12, 15, 18, 21 or 24 words. -/
def phraseFault? : List Char → Option KeyFault
  | '0' :: 'x' :: digits => seedFault? digits
  | phrase =>
    let n := Text.wordCount phrase
    if n % 3 = 0 && 12 ≤ n && n ≤ 24 then none else some (.wordCount n)

/-- The parts of a text whose phrase is well-formed. -/
def read (text : String) : Except Error SecretUri :=
  match parse? text with
  | none => .error (.invalidArgument (.key .format))
  | some uri =>
    match uri.phrase.bind phraseFault? with
    | some fault => .error (.invalidArgument (.key fault))
    | none => .ok uri

end SecretUri

end LedgerClient
