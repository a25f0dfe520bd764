import Rollout.Core.Ids

/-!
# Identifiers of the cloud traits

The id of a queue item, and how a backend's own message id is folded into one.
-/

set_option linter.unusedSectionVars false

namespace Rollout.Core

open Rollout.Lib

/-- The big-endian value of some bytes.
Source: `rollout-core/src/traits/cloud.rs` `from_message_id_string` (`u128::from_be_bytes`).
Kind: D -/
def fromBeBytes (bs : Bytes) : Nat := bs.foldl (fun n b => 256 * n + b.toNat) 0

/-- Identifier of an enqueued item. Source: `rollout-core/src/traits/cloud.rs` `QueueItemId`.
Kind: D -/
structure QueueItemId where
  /-- The wrapped ULID. -/
  ulid : Ulid
deriving DecidableEq

namespace QueueItemId

/-- The id of the message a backend knows by `mid`: the first half of the digest of its text.
Source: `rollout-core/src/traits/cloud.rs` `QueueItemId::from_message_id_string`. Kind: D -/
def fromMessageIdString [Blake3] (mid : String) : QueueItemId :=
  let digest := ContentId.of mid.toUTF8.data.toList
  ⟨⟨BitVec.ofNat 128 (fromBeBytes (digest.raw.1.take 16))⟩⟩

/-- An item as an error names it. Source: `rollout-core/src/traits/cloud.rs` `QueueItemId`
(`Debug`). Kind: D -/
def debug (id : QueueItemId) : String :=
  "QueueItemId(Ulid(" ++ toString id.ulid.bits.toNat ++ "))"

end QueueItemId

end Rollout.Core
