/-!
# Wait policies

How long a submission waits before it reports back.
-/

namespace LedgerClient

/-- How long a submission waits before it reports back. -/
inductive Policy where
  /-- Until the node has taken the extrinsic into its pool. -/
  | fireAndForget
  /-- Until the extrinsic is in a block. -/
  | inclusion
  /-- Until the block with the extrinsic is final. -/
  | finalization
  deriving DecidableEq

namespace Policy

instance : Inhabited Policy := ⟨fireAndForget⟩

/-- All policies. -/
def all : List Policy := [fireAndForget, inclusion, finalization]

/-- The policy that a pair of flags asks for; finality wins when both are set. -/
def ofFlags (inclusionWanted finalityWanted : Bool) : Policy :=
  if finalityWanted then finalization else if inclusionWanted then inclusion else fireAndForget

/-- The name of a policy. -/
def name : Policy → String
  | fireAndForget => "FireAndForget"
  | inclusion => "Inclusion"
  | finalization => "Finalization"

/-- The name of a policy as it stands in messages. -/
def label : Policy → String
  | fireAndForget => "fire-and-forget"
  | inclusion => "wait-for-inclusion"
  | finalization => "wait-for-finalization"

/-- The policy with exactly this name. -/
def ofName? (text : String) : Option Policy := all.find? fun p => p.name == text

end Policy

end LedgerClient
