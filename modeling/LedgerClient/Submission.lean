import LedgerClient.Bytes
import LedgerClient.Error
import LedgerClient.Policy

/-!
# The fate of a submitted extrinsic

What a node reports about a submitted extrinsic, how far the extrinsic got when a submission
returns, and which report decides the submission.

## The model

A watched extrinsic gives a sequence of reports: a progress, an error, or the end of the reports.
`verdict` says for each report whether it decides the submission under a policy. Being in the
pool decides nothing; being in a block decides only for those who wait for a block.
-/

namespace LedgerClient

/-- What a node says about a submitted extrinsic. -/
inductive Progress where
  /-- It waits in the pool. -/
  | inPool
  /-- It is in a block and was carried out there. -/
  | inBlock (block : Hash)
  /-- The block that holds it is final. -/
  | finalized (block : Hash)
  /-- It was dropped from the pool. -/
  | dropped (reason : String)
  /-- It was not valid. -/
  | invalid (reason : String)
  /-- It is in a block, but carrying it out failed. -/
  | failed (reason : String)
  deriving DecidableEq

/-- How far an extrinsic got. -/
inductive Outcome where
  /-- It is in the node's pool; more was not waited for. -/
  | accepted (extrinsic : Hash)
  /-- It is in a block. -/
  | inBlock (extrinsic block : Hash)
  /-- It is in a final block. -/
  | finalized (extrinsic block : Hash)
  deriving DecidableEq

namespace Outcome

/-- The hash of the extrinsic. -/
def extrinsic : Outcome → Hash
  | accepted x | inBlock x _ | finalized x _ => x

/-- The hash of the block that holds the extrinsic, if it is known to be in one. -/
def block? : Outcome → Option Hash
  | accepted _ => none
  | inBlock _ b | finalized _ b => some b

/-- Whether the extrinsic is known to be in a block. -/
def isIncluded (o : Outcome) : Bool := o.block?.isSome

/-- How an outcome is shown. -/
def text : Outcome → String
  | accepted x => "Accepted \x7b extrinsic_hash: " ++ Text.byteList x.toList ++ " \x7d"
  | inBlock x b =>
    "InBlock \x7b extrinsic_hash: " ++ Text.byteList x.toList ++ ", block_hash: " ++
      Text.byteList b.toList ++ " \x7d"
  | finalized x b =>
    "Finalized \x7b extrinsic_hash: " ++ Text.byteList x.toList ++ ", block_hash: " ++
      Text.byteList b.toList ++ " \x7d"

end Outcome

/-- A report on a watched extrinsic: a progress, an error, or the end of the reports. -/
inductive Report where
  /-- The extrinsic made progress. -/
  | progress (p : Progress)
  /-- Watching failed. -/
  | failed (e : Error)
  /-- The node stopped reporting. -/
  | closed
  deriving DecidableEq

/-- Whether a report decides a submission that waits as a policy asks: being in the pool decides
nothing, and being in a block decides only for those who wait for a block. -/
def Report.decides (policy : Policy) : Report → Bool
  | .progress .inPool => false
  | .progress (.inBlock _) => policy == .inclusion
  | .progress _ | .failed _ | .closed => true

/-- What a report means for a submission that waits. -/
inductive Verdict where
  /-- The submission is decided. -/
  | decided (result : Except Error Outcome)
  /-- The extrinsic is in the pool, and the wait goes on. -/
  | stillInPool
  /-- The extrinsic is in a block, and the wait for finality goes on. -/
  | stillInBlock (block : Hash)

/-- What a report means for the submission of an extrinsic under a policy. -/
def verdict (policy : Policy) (extrinsic : Hash) : Report → Verdict
  | .progress .inPool => .stillInPool
  | .progress (.inBlock block) =>
    if policy = .inclusion then .decided (.ok (.inBlock extrinsic block)) else .stillInBlock block
  | .progress (.finalized block) => .decided (.ok (.finalized extrinsic block))
  | .progress (.dropped reason) => .decided (.error (.rejected ("dropped: " ++ reason)))
  | .progress (.invalid reason) => .decided (.error (.rejected ("invalid: " ++ reason)))
  | .progress (.failed reason) => .decided (.error (.rejected reason))
  | .failed e => .decided (.error e)
  | .closed => .decided (.error (.transport "transaction status stream closed"))

end LedgerClient
