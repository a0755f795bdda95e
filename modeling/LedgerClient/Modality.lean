/-!
# Modalities

What kind of data a peer serves, with the number that stands for it on the ledger.
-/

namespace LedgerClient

/-- What kind of data a peer serves. -/
inductive Modality where
  /-- Text. -/
  | text
  /-- Images. -/
  | image
  /-- Tensors. -/
  | tensor
  deriving DecidableEq

namespace Modality

/-- All modalities. -/
def all : List Modality := [text, image, tensor]

/-- The number on the ledger. -/
def toUInt8 : Modality → UInt8
  | text => 0
  | image => 1
  | tensor => 2

/-- The modality that a number stands for. -/
def ofUInt8? (n : UInt8) : Option Modality := all.find? fun m => m.toUInt8 == n

/-- The name of a modality. -/
def name : Modality → String
  | text => "Text"
  | image => "Image"
  | tensor => "Tensor"

/-- The modality with exactly this name. -/
def ofName? (s : String) : Option Modality := all.find? fun m => m.name == s

end Modality

end LedgerClient
