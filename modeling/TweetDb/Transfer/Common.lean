import Mathlib.Algebra.Group.Nat.Defs
import Mathlib.Data.List.Basic
import TweetDb.Basic

/-! # Options and limits of a transfer -/

namespace TweetDb.Transfer

abbrev Bytes := List UInt8

/-- `TransferOptions` without the deadline; `from_section` raises the limits to at least 1. -/
structure TransferOptions where
  chunkSizeBytes : Nat
  downloadParallelism : Nat
  uploadParallelism : Nat
  maxInFlightParts : Nat
  chunkSizeBytes_pos : 1 ≤ chunkSizeBytes
  downloadParallelism_pos : 1 ≤ downloadParallelism
  uploadParallelism_pos : 1 ≤ uploadParallelism
  maxInFlightParts_pos : 1 ≤ maxInFlightParts

/-- `ensure_valid_part_number`. -/
def ensureValidPartNumber (partNumber : Nat) : Except String Unit :=
  if 1 ≤ partNumber ∧ partNumber ≤ 10000 then .ok ()
  else .error "multipart upload exceeded the S3 10000 part limit"

/-- `add_content_length`, on `u64`. -/
def addContentLength (total len : Nat) : Except String Nat :=
  if total + len < 2 ^ 64 then .ok (total + len)
  else .error "object body exceeded u64 length limit"

theorem addContentLength_ok {total len sum : Nat} (added : addContentLength total len = .ok sum) :
    sum = total + len := by
  unfold addContentLength at added
  split at added
  · cases added
    rfl
  · cases added

end TweetDb.Transfer
