import ObjectTransfer.Identifier

/-!
# The life of a transfer

The kinds of transfer, the states that one goes through, in the only order there is, and the
counts by which a worker tells how many it has seen.
-/

namespace ObjectTransfer

/-- Which way bytes travel. -/
inductive TransferKind where
  /-- From a device's object to the caller. -/
  | importing
  /-- From an object's thumbnail to the caller. -/
  | thumbnail
  /-- From the caller to a new object. -/
  | upload
  deriving Repr, DecidableEq

namespace TransferKind

/-- The name of the kind. -/
def display : TransferKind → String
  | importing => "import"
  | thumbnail => "thumbnail"
  | upload => "upload"

end TransferKind

/-- A piece of work for one object: what it is for, and what there is to do. -/
structure Job (β : Type) where
  kind : TransferKind
  identifier : Identifier
  body : β

/-- Where a transfer stands. -/
inductive TransferState where
  /-- Built, not yet admitted. -/
  | created
  /-- Waiting in the queue. -/
  | queued
  /-- Being carried out. -/
  | running
  /-- Ended well. -/
  | completed
  /-- Ended with an error or a panic. -/
  | failed
  deriving Repr, DecidableEq

namespace TransferState

/-- Whether a transfer may go from one state straight to the other. -/
def canAdvanceTo : TransferState → TransferState → Bool
  | created, queued | queued, running | running, completed | running, failed => true
  | _, _ => false

/-- The name of the state. -/
def display : TransferState → String
  | created => "Created"
  | queued => "Queued"
  | running => "Running"
  | completed => "Completed"
  | failed => "Failed"

end TransferState

/-- How many transfers a worker has taken on, and how many of those have ended. The counters have 64
bits; it is assumed that fewer than `2 ^ 64` transfers are taken on, so that none wraps around. -/
structure Stats where
  /-- Transfers taken on. -/
  submitted : Nat := 0
  /-- Transfers that ended well. -/
  completed : Nat := 0
  /-- Transfers that ended with an error or a panic. -/
  failed : Nat := 0
  deriving Repr, DecidableEq

/-- Transfers taken on and not yet ended; 0 when the counts contradict each other. -/
def Stats.pending (s : Stats) : Nat :=
  s.submitted - s.completed - s.failed

end ObjectTransfer
