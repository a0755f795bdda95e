import LedgerClient.Decimal.Reader
import LedgerClient.Text.Blank

/-!
# Balances

A balance counts money in the base unit, the rao. The display unit, the tao, is 10⁹ rao. Text
and display amounts are decimal; an amount that is not a whole number of rao is refused, never
rounded.
-/

namespace LedgerClient

/-- A non-negative amount, counted in rao. -/
structure Balance where
  /-- The number of rao. -/
  rao : UInt64
  deriving DecidableEq

/-- Why an amount is not a balance. Each cause carries the amount's text. -/
inductive BalanceError where
  /-- The amount is below zero. -/
  | negative (amount : String)
  /-- The amount is not a whole number of rao. -/
  | tooPrecise (amount : String)
  /-- The amount is `2 ^ 64` rao or more. -/
  | overflow (amount : String)
  /-- The text is not a decimal amount; it is given with the reason. -/
  | malformed (detail : String)
  deriving DecidableEq

/-- The text of a refusal. -/
def BalanceError.message : BalanceError → String
  | .negative amount => "Invalid amount: " ++ amount ++ " is negative"
  | .tooPrecise amount => "Invalid amount: " ++ amount ++ " is finer than one rao"
  | .overflow amount => "Invalid amount: " ++ amount ++ " exceeds the representable range"
  | .malformed detail => "Invalid amount: " ++ detail

namespace Balance

/-- The fractional digits of the display unit. -/
def taoDecimals : Nat := 9

/-- The symbol of the display unit. -/
def taoSymbol : Char := 'τ'

/-- Nothing. -/
def zero : Balance := ⟨0⟩

/-- Whether the balance is nothing. -/
def isZero (b : Balance) : Bool := b.rao == 0

/-! ### Display amounts -/

/-- The balance that a display amount denotes, exactly. -/
def ofTao (tao : Decimal) : Except BalanceError Balance :=
  if tao.mantissa = 0 then .ok zero
  else if tao.negative then .error (.negative tao.text)
  else
    let scaled := tao.mantissa * Decimal.unit taoDecimals
    if scaled % Decimal.unit tao.scale ≠ 0 then .error (.tooPrecise tao.text)
    else
      let rao := scaled / Decimal.unit tao.scale
      if rao < UInt64.size then .ok ⟨UInt64.ofNat rao⟩ else .error (.overflow tao.text)

/-- The display amount of a balance, exact to the rao. -/
def toTao (b : Balance) : Decimal :=
  { negative := false
    mantissa := b.rao.toNat
    scale := taoDecimals
    mantissa_lt := Nat.lt_of_lt_of_le b.rao.toNat_lt (by decide)
    scale_le := by decide }

/-- The text of a balance: the symbol, then the display amount. -/
def text (b : Balance) : String := taoSymbol.toString ++ b.toTao.text

/-- The characters without one leading symbol of the display unit. -/
def dropSymbol : List Char → List Char
  | [] => []
  | c :: cs => if c = taoSymbol then cs else c :: cs

/-- The digits of a balance's text: blanks and one leading symbol are taken off. -/
def bareDigits (s : String) : List Char :=
  Text.trimChars (dropSymbol (Text.trimChars s.toList))

/-- The balance that a text denotes. -/
def parse (s : String) : Except BalanceError Balance :=
  match Decimal.read (bareDigits s) with
  | .ok tao => ofTao tao
  | .error fault => .error (.malformed (s ++ ": " ++ fault.message))

/-! ### Whole numbers of rao -/

/-- The balance of an integer number of rao. -/
def ofInt (rao : Int) : Except BalanceError Balance :=
  if rao < 0 then .error (.negative (toString rao))
  else if rao < UInt64.size then .ok ⟨UInt64.ofNat rao.toNat⟩
  else .error (.overflow (toString rao))

/-- The balance of a natural number of rao. -/
def ofNat (rao : Nat) : Except BalanceError Balance :=
  if rao < UInt64.size then .ok ⟨UInt64.ofNat rao⟩ else .error (.overflow (toString rao))

/-! ### Arithmetic -/

/-- The sum, unless it is out of range. -/
def add? (a b : Balance) : Option Balance :=
  if a.rao.toNat + b.rao.toNat < UInt64.size then some ⟨a.rao + b.rao⟩ else none

/-- The difference, unless it is below zero. -/
def sub? (a b : Balance) : Option Balance :=
  if b.rao ≤ a.rao then some ⟨a.rao - b.rao⟩ else none

/-- The difference, or nothing when it is below zero. -/
def saturatingSub (a b : Balance) : Balance := (a.sub? b).getD zero

/-- The sum of a list, unless a partial sum is out of range. -/
def sum? (balances : List Balance) : Option Balance := balances.foldlM add? zero

/-- The order of two balances. -/
def compare (a b : Balance) : Ordering := Ord.compare a.rao.toNat b.rao.toNat

end Balance

end LedgerClient
