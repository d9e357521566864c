import TweetDb.Fallible
import TweetDb.Relational.Agree
import TweetDb.Submit.Checks
import TweetDb.Submit.Statements

/-! # Keys with a time

`time::OffsetDateTime` with its nanoseconds and its offset, where the other
modules have the instant alone.  The time of an observation is cut to
microseconds, sent as a text and stored; what the statement returns is another
value, but an equal one, so a status is found under the time that was sent.
-/

namespace TweetDb.Submit

open Relational
open TweetModel (MediaResource UserSnapshot)
open TweetDb.Tweet (TweetStats UserStats)

/-! ## Times -/

/-- `time::OffsetDateTime`: a local time and its offset from UTC, both in seconds. -/
structure OffsetTime where
  second : Int
  nanosecond : Fin 1000000000
  offset : Int
deriving Repr

namespace OffsetTime

/-- The nanoseconds since the epoch. -/
def instant (time : OffsetTime) : Int :=
  (time.second - time.offset) * 1000000000 + time.nanosecond.val

/-- `Eq` and `Hash` ignore the offset. -/
instance : BEq OffsetTime := ⟨fun a b => a.instant == b.instant⟩

def replaceNanosecond (time : OffsetTime) (nanosecond : Nat) : Option OffsetTime :=
  if bounded : nanosecond < 1000000000 then
    some { time with nanosecond := ⟨nanosecond, bounded⟩ }
  else none

/-- `postgres_timestamptz`. -/
def postgresTimestamptz (value : OffsetTime) : OffsetTime :=
  let nanosecond := value.nanosecond.val
  let truncated := nanosecond - nanosecond % 1000
  (value.replaceNanosecond truncated).getD value

/-- A `TIMESTAMPTZ` that is read, always in UTC. -/
def ofTimestamptz (stamp : Int) : OffsetTime where
  second := stamp / 1000000
  nanosecond := ⟨(stamp % 1000000).toNat * 1000, by omega⟩
  offset := 0

/-- The two ways to cut a time agree, before the epoch too. -/
theorem instant_postgresTimestamptz (value : OffsetTime) :
    value.postgresTimestamptz.instant = Submit.postgresTimestamptz value.instant * 1000 := by
  obtain ⟨second, ⟨nanosecond, isLt⟩, offset⟩ := value
  have bounded : nanosecond - nanosecond % 1000 < 1000000000 := by omega
  simp only [postgresTimestamptz, replaceNanosecond, bounded, dif_pos, Option.getD_some, instant,
    Submit.postgresTimestamptz]
  omega

theorem postgresTimestamptz_whole (value : OffsetTime) :
    value.postgresTimestamptz.nanosecond.val % 1000 = 0 := by
  obtain ⟨second, ⟨nanosecond, isLt⟩, offset⟩ := value
  have bounded : nanosecond - nanosecond % 1000 < 1000000000 := by omega
  simp only [postgresTimestamptz, replaceNanosecond, bounded, dif_pos, Option.getD_some]
  omega

theorem instant_ofTimestamptz (stamp : Int) :
    (ofTimestamptz stamp).instant = stamp * 1000 := by
  simp only [ofTimestamptz, instant]
  omega

/-- Times of one instant are equal. -/
theorem beq_ofTimestamptz {time : OffsetTime} {stamp : Int}
    (same : time.instant = stamp * 1000) (stamp' : Int) :
    (time == ofTimestamptz stamp') = (stamp == stamp') := by
  show (time.instant == (ofTimestamptz stamp').instant) = (stamp == stamp')
  rw [same, instant_ofTimestamptz, Bool.eq_iff_iff, beq_iff_eq, beq_iff_eq]
  omega

end OffsetTime

/-- How a time is sent: its RFC 3339 text, which not every year has, and what the database reads. -/
structure SentTimes where
  rfc3339 : OffsetTime → Option String
  timestamptz : String → Option Timestamp

/-- Whole microseconds are stored exactly. -/
def SentTimes.Exact (times : SentTimes) : Prop :=
  ∀ time text stamp, time.nanosecond.val % 1000 = 0 → times.rfc3339 time = some text →
    times.timestamptz text = some stamp → stamp * 1000 = time.instant

/-! ## Observations -/

/-- What is stored under an id and a time. -/
class Observed (α : Type) where
  id : α → Int
  recordedAt : α → Timestamp
  record : α → Timestamp → α
  id_record : ∀ value stamp, id (record value stamp) = id value
  recordedAt_record : ∀ value stamp, recordedAt (record value stamp) = stamp

instance : Observed UserSnapshot where
  id := UserSnapshot.userId
  recordedAt := UserSnapshot.recordedAt
  record value stamp := { value with recordedAt := stamp }
  id_record _ _ := rfl
  recordedAt_record _ _ := rfl

instance : Observed UserStats where
  id := Tweet.UserStats.userId
  recordedAt := Tweet.UserStats.recordedAt
  record value stamp := { value with recordedAt := stamp }
  id_record _ _ := rfl
  recordedAt_record _ _ := rfl

instance : Observed TweetStats where
  id := Tweet.TweetStats.tweetId
  recordedAt := Tweet.TweetStats.recordedAt
  record value stamp := { value with recordedAt := stamp }
  id_record _ _ := rfl
  recordedAt_record _ _ := rfl

instance : Observed MediaResource where
  id := MediaResource.mediaId
  recordedAt := MediaResource.recordedAt
  record value stamp := { value with recordedAt := stamp }
  id_record _ _ := rfl
  recordedAt_record _ _ := rfl

/-- An observation with the time it was fetched at. -/
structure Timed (α : Type) where
  value : α
  time : OffsetTime

section Timed

variable {α σ : Type} [Observed α]

namespace Timed

/-- The time the conversion gives it. -/
def recordedAt (item : Timed α) : OffsetTime := item.time.postgresTimestamptz

/-- The key the code looks its status up by. -/
def key (item : Timed α) : Int × OffsetTime := (Observed.id item.value, item.recordedAt)

/-- The same observation where a time is its instant. -/
def stored (item : Timed α) : α :=
  Observed.record item.value (postgresTimestamptz item.time.instant)

/-- What the database reads of it. -/
def send (times : SentTimes) (item : Timed α) : Option α := do
  let text ← times.rfc3339 item.recordedAt
  let stamp ← times.timestamptz text
  return Observed.record item.value stamp

end Timed

/-- A `HashMap`, in which a later entry replaces an equal one. -/
def collectStatuses (rows : List ((Int × Timestamp) × ConditionalWrite)) :
    List ((Int × OffsetTime) × ConditionalWrite) :=
  (rows.map fun ((id, recordedAt), status) => ((id, .ofTimestamptz recordedAt), status)).reverse

/-- `append_…_if_changed_many`: the statement over what is sent, and the map of its rows. -/
def appendTimed (times : SentTimes) (timeError : String)
    (statement : List α → Except String (List ((Int × Timestamp) × ConditionalWrite) × σ))
    (items : List (Timed α)) : Except String (List ((Int × OffsetTime) × ConditionalWrite) × σ) :=
  match items.mapM (Timed.send times) with
  | none => .error timeError
  | some rows => (statement rows).map fun (statuses, state) => (collectStatuses statuses, state)

/-! ## Lookups -/

/-- What is read of an item has the time that was sent. -/
theorem eq_stored_of_send {times : SentTimes} (exact_ : times.Exact) {item : Timed α} {row : α}
    (sent : item.send times = some row) : row = item.stored := by
  obtain ⟨text, isText, sent⟩ := Option.bind_eq_some_iff.mp sent
  obtain ⟨stamp, isStamp, sent⟩ := Option.bind_eq_some_iff.mp sent
  cases sent
  have whole := OffsetTime.postgresTimestamptz_whole item.time
  have same := exact_ _ text stamp whole isText isStamp
  rw [OffsetTime.instant_postgresTimestamptz] at same
  have isStored : stamp = postgresTimestamptz item.time.instant :=
    Int.eq_of_mul_eq_mul_right (by decide) same
  rw [Timed.stored, isStored]

theorem mapM_send_eq {times : SentTimes} (exact_ : times.Exact) {items : List (Timed α)}
    {rows : List α} (sent : items.mapM (Timed.send times) = some rows) :
    rows = items.map Timed.stored := by
  have each := (Fallible.mapM_eq_some.mp sent).imp fun _ _ => eq_stored_of_send exact_
  rw [← List.forall₂_eq_eq_eq, List.forall₂_map_right_iff]
  exact each.flip

/-- The map is asked like the list of its rows, the last one first. -/
theorem lookup_collectStatuses {time : OffsetTime} {id stamp : Int}
    (same : time.instant = stamp * 1000)
    (rows : List ((Int × Timestamp) × ConditionalWrite)) :
    (collectStatuses rows).lookup (id, time) = rows.reverse.lookup (id, stamp) := by
  rw [collectStatuses, ← List.map_reverse]
  induction rows.reverse with
  | nil => rfl
  | cons row rows inductionHypothesis =>
    obtain ⟨⟨id', stamp'⟩, status⟩ := row
    have sameKey : ((id, time) == (id', OffsetTime.ofTimestamptz stamp')) =
        ((id, stamp) == (id', stamp')) := by
      show ((id == id') && (time == OffsetTime.ofTimestamptz stamp')) =
        ((id == id') && (stamp == stamp'))
      rw [OffsetTime.beq_ofTimestamptz same]
    rw [List.map_cons, List.lookup_cons, List.lookup_cons, sameKey, inductionHypothesis]

/-- A status is found under the key of its item. -/
theorem lookup_collectStatuses_of_mem {rows : List ((Int × Timestamp) × ConditionalWrite)}
    (distinct : DistinctBy Prod.fst rows) {item : Timed α} {status : ConditionalWrite}
    (member : ((Observed.id item.stored, Observed.recordedAt item.stored), status) ∈ rows) :
    (collectStatuses rows).lookup item.key = some status := by
  rw [Timed.stored, Observed.id_record, Observed.recordedAt_record] at member
  unfold Timed.key Timed.recordedAt
  rw [lookup_collectStatuses (OffsetTime.instant_postgresTimestamptz item.time)]
  have distinct' : DistinctBy Prod.fst rows.reverse :=
    distinct.subset fun _ => List.mem_reverse.mp
  have found := distinct'.lookup_answers Prod.snd (List.mem_reverse.mpr member)
  simpa using found

end Timed

end TweetDb.Submit
