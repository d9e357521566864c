import Mathlib.Data.List.Perm.Basic
import Mathlib.Data.List.Sort
import TweetDb.Text
import TweetDb.Transfer.Common
import TweetDb.Transfer.Queue

/-! # Multipart uploads

What both multipart paths share: part uploads in flight finish in any order,
and the completion sorts the finished parts.  The storage keeps the parts it
was given and concatenates the listed ones.
-/

namespace TweetDb.Transfer

structure PreparedStorageObject where
  id : Uuid
  provider : String
  bucket : String
  objectKey : String
  contentType : String
deriving DecidableEq, Repr

structure UploadedPart where
  partNumber : Nat
  etag : String
deriving DecidableEq, Repr

/-- The upload futures in flight, the finished parts, and the parts the storage has. -/
structure MultipartUpload where
  uploads : List (Nat × Bytes)
  completedParts : List UploadedPart
  stored : List (Nat × Bytes)
deriving DecidableEq, Repr

/-- What a finished transfer reports, the object the storage then has, and its part list. -/
structure Transferred where
  metadata : StoredObjectMetadata
  storedObject : Bytes
  parts : Option (List UploadedPart)
deriving DecidableEq, Repr

namespace MultipartUpload

def empty : MultipartUpload := ⟨[], [], []⟩

def push (partNumber : Nat) (buffer : Bytes) (upload : MultipartUpload) : MultipartUpload :=
  { upload with uploads := upload.uploads ++ [(partNumber, buffer)] }

/-- `uploads.next()`: any upload in flight may be the next to finish. -/
def finish (index : Nat) (etag : String) (upload : MultipartUpload) :
    Option (UploadedPart × MultipartUpload) :=
  upload.uploads[index]?.map fun (partNumber, buffer) =>
    (⟨partNumber, etag⟩,
      { uploads := upload.uploads.eraseIdx index
        completedParts := upload.completedParts ++ [⟨partNumber, etag⟩]
        stored := (partNumber, buffer) :: upload.stored })

/-- Every part number that was pushed. -/
def numbers (upload : MultipartUpload) : List Nat :=
  upload.uploads.map Prod.fst ++ upload.completedParts.map UploadedPart.partNumber

end MultipartUpload

/-! ## Completion -/

/-- `i64::try_from` of a length. -/
def objectLength (length : Nat) : Except String Int :=
  if length < 2 ^ 63 then .ok length else .error "object body exceeded i64 length limit"

/-- `sanitize_etag`, which trims quotation marks. -/
def sanitizeEtag (value : String) : String :=
  let isQuote := fun c => c == Char.ofNat 34
  trimEndMatches isQuote (trimStartMatches isQuote value)

def PreparedStorageObject.metadata (object : PreparedStorageObject) (contentLength : Int)
    (etag : Option String) (sha256Hex : String) : StoredObjectMetadata where
  id := object.id
  provider := object.provider
  bucket := object.bucket
  objectKey := object.objectKey
  contentType := object.contentType
  contentLength := contentLength
  etag := etag.map sanitizeEtag
  sha256Hex := sha256Hex

/-- `completed_multipart_upload`. -/
def completedMultipartUpload (parts : List UploadedPart) : List UploadedPart :=
  parts.insertionSort fun a b => a.partNumber ≤ b.partNumber

/-- The storage concatenates the listed parts; a part it does not have fails the completion. -/
def assemble (stored : List (Nat × Bytes)) : List UploadedPart → Option Bytes
  | [] => some []
  | part :: parts =>
    (stored.lookup part.partNumber).bind fun buffer =>
      (assemble stored parts).map fun rest => buffer ++ rest

/-- `put_single_object`; `sha256` is the digest in hexadecimal. -/
def putSingleObject (sha256 : Bytes → String) (object : PreparedStorageObject)
    (etag : Option String) (body : Bytes) : Except String Transferred :=
  (objectLength body.length).map fun contentLength =>
    { metadata := object.metadata contentLength etag (sha256 body)
      storedObject := body
      parts := none }

/-- `complete_multipart_with_hash`. -/
def completeMultipartWithHash (sha256 : Bytes → String) (object : PreparedStorageObject)
    (etag : Option String) (upload : MultipartUpload) (contentLength : Nat) (hasher : Bytes) :
    Except String Transferred :=
  (objectLength contentLength).bind fun contentLength =>
    let parts := completedMultipartUpload upload.completedParts
    match assemble upload.stored parts with
    | none => .error "failed to complete multipart upload in storage"
    | some storedObject => .ok
        { metadata := object.metadata contentLength etag (sha256 hasher)
          storedObject := storedObject
          parts := some parts }

/-! ## Uploads that carry the parts of a body -/

/-- Uploads in flight and parts in the storage are the parts of this list, by number. -/
structure Carries (parts : List Bytes) (upload : MultipartUpload) : Prop where
  inFlight : ∀ entry ∈ upload.uploads,
    1 ≤ entry.1 ∧ parts[entry.1 - 1]? = some entry.2
  inStorage : ∀ part ∈ upload.completedParts, 1 ≤ part.partNumber ∧
    ∃ buffer, parts[part.partNumber - 1]? = some buffer ∧
      upload.stored.lookup part.partNumber = some buffer

section Carries

variable {parts : List Bytes} {upload upload' : MultipartUpload} {index : Nat} {etag : String}
  {finished : UploadedPart}

theorem carries_empty : Carries parts .empty := ⟨nofun, nofun⟩

theorem Carries.append (carries : Carries parts upload) (more : List Bytes) :
    Carries (parts ++ more) upload := by
  have longer : ∀ {n : Nat} {buffer : Bytes}, parts[n]? = some buffer →
      (parts ++ more)[n]? = some buffer := by
    intro n buffer found
    have inside : n < parts.length := by
      by_contra outside
      rw [List.getElem?_eq_none (by omega)] at found
      cases found
    rw [List.getElem?_append_left inside]
    exact found
  constructor
  · intro entry member
    exact ⟨(carries.inFlight entry member).1, longer (carries.inFlight entry member).2⟩
  · intro part member
    obtain ⟨positive, buffer, found, kept⟩ := carries.inStorage part member
    exact ⟨positive, buffer, longer found, kept⟩

theorem Carries.push {partNumber : Nat} {buffer : Bytes} (carries : Carries parts upload)
    (positive : 1 ≤ partNumber) (found : parts[partNumber - 1]? = some buffer) :
    Carries parts (upload.push partNumber buffer) := by
  refine ⟨fun entry member => ?_, carries.inStorage⟩
  rcases List.mem_append.mp member with old | new
  · exact carries.inFlight entry old
  · rw [List.mem_singleton.mp new]
    exact ⟨positive, found⟩

theorem numbers_push (partNumber : Nat) (buffer : Bytes) :
    (upload.push partNumber buffer).numbers.Perm (partNumber :: upload.numbers) := by
  simp only [MultipartUpload.numbers, MultipartUpload.push, List.map_append, List.map_cons,
    List.map_nil, List.append_assoc, List.singleton_append]
  exact List.perm_middle

/-- The upload that finishes was in flight and moves to the finished parts. -/
theorem finish_eq (ended : upload.finish index etag = some (finished, upload')) :
    ∃ buffer, (finished.partNumber, buffer) ∈ upload.uploads ∧
      upload' = { uploads := upload.uploads.eraseIdx index
                  completedParts := upload.completedParts ++ [finished]
                  stored := (finished.partNumber, buffer) :: upload.stored } := by
  obtain ⟨⟨partNumber, buffer⟩, found, result⟩ := Option.map_eq_some_iff.mp ended
  cases result
  exact ⟨buffer, List.mem_of_getElem? found, rfl⟩

theorem numbers_finish (ended : upload.finish index etag = some (finished, upload')) :
    upload'.numbers.Perm upload.numbers := by
  obtain ⟨⟨partNumber, buffer⟩, found, result⟩ := Option.map_eq_some_iff.mp ended
  cases result
  have inside : index < upload.uploads.length := by
    by_contra outside
    rw [List.getElem?_eq_none (by omega)] at found
    cases found
  have entry : upload.uploads[index] = (partNumber, buffer) := by
    rw [List.getElem?_eq_getElem inside, Option.some.injEq] at found
    exact found
  have moved := (List.getElem_cons_eraseIdx_perm inside).map Prod.fst
  rw [entry] at moved
  simp only [MultipartUpload.numbers, List.map_append, List.map_cons, List.map_nil]
  rw [← List.append_assoc]
  refine (List.perm_append_singleton _ _).trans ?_
  rw [← List.cons_append]
  exact moved.append_right _

theorem Carries.finish (carries : Carries parts upload)
    (ended : upload.finish index etag = some (finished, upload')) : Carries parts upload' := by
  obtain ⟨buffer, flying, rfl⟩ := finish_eq ended
  obtain ⟨positive, found⟩ := carries.inFlight _ flying
  constructor
  · intro entry member
    exact carries.inFlight entry (List.mem_of_mem_eraseIdx member)
  · intro part member
    by_cases same : part.partNumber = finished.partNumber
    · rw [same]
      exact ⟨positive, buffer, found, List.lookup_cons_self⟩
    · rcases List.mem_append.mp member with old | new
      · obtain ⟨positive', buffer', found', kept⟩ := carries.inStorage part old
        refine ⟨positive', buffer', found', ?_⟩
        rw [List.lookup_cons, beq_false_of_ne same]
        exact kept
      · rw [List.mem_singleton.mp new] at same
        exact absurd rfl same

/-- Parts listed in order are concatenated to the rest of the body. -/
theorem assemble_from {stored : List (Nat × Bytes)} {list : List UploadedPart} {k : Nat}
    (kept : ∀ part ∈ list, 1 ≤ part.partNumber ∧ ∃ buffer,
      parts[part.partNumber - 1]? = some buffer ∧ stored.lookup part.partNumber = some buffer)
    (numbered : list.map UploadedPart.partNumber = List.range' (k + 1) (parts.length - k))  :
    assemble stored list = some (parts.drop k).flatten := by
  induction list generalizing k with
  | nil =>
    have short : parts.length - k = 0 := by
      have length := congrArg List.length numbered
      simpa using length.symm
    rw [List.drop_eq_nil_of_le (by omega)]
    rfl
  | cons part list inductionHypothesis =>
    cases left : parts.length - k with
    | zero =>
      rw [left] at numbered
      cases numbered
    | succ rest =>
      rw [left, List.range'_succ, List.map_cons, List.cons.injEq] at numbered
      obtain ⟨first, numbered⟩ := numbered
      obtain ⟨_, buffer, found, inStorage⟩ := kept part List.mem_cons_self
      have others := @inductionHypothesis (k + 1)
        (fun part member => kept part (List.mem_cons_of_mem _ member))
        (by rw [numbered]; congr 1; omega)
      rw [first, Nat.add_sub_cancel] at found
      have inside : k < parts.length := by omega
      rw [List.getElem?_eq_getElem inside, Option.some.injEq] at found
      have split_eq : parts.drop k = buffer :: parts.drop (k + 1) := by
        rw [← found]
        exact List.drop_eq_getElem_cons inside
      rw [assemble, inStorage, Option.bind_some, others, Option.map_some, split_eq,
        List.flatten_cons]

/-- When all parts are finished the storage has the body, listed 1, 2, … in order. -/
theorem Carries.complete (carries : Carries parts upload) (noneInFlight : upload.uploads = [])
    (all : upload.numbers.Perm (List.range' 1 parts.length)) :
    (completedMultipartUpload upload.completedParts).map UploadedPart.partNumber =
        List.range' 1 parts.length ∧
      assemble upload.stored (completedMultipartUpload upload.completedParts) =
        some parts.flatten := by
  have sortedPerm : (completedMultipartUpload upload.completedParts).Perm upload.completedParts :=
    List.perm_insertionSort _ _
  have numbers_eq : upload.numbers = upload.completedParts.map UploadedPart.partNumber := by
    rw [MultipartUpload.numbers, noneInFlight, List.map_nil, List.nil_append]
  have perm : ((completedMultipartUpload upload.completedParts).map
      UploadedPart.partNumber).Perm (List.range' 1 parts.length) := by
    rw [numbers_eq] at all
    exact (sortedPerm.map _).trans all
  have sorted : ((completedMultipartUpload upload.completedParts).map
      UploadedPart.partNumber).Pairwise (· ≤ ·) := by
    rw [List.pairwise_map]
    have total : Std.Total fun a b : UploadedPart => a.partNumber ≤ b.partNumber :=
      ⟨fun a b => Nat.le_total _ _⟩
    have transitive : IsTrans UploadedPart fun a b => a.partNumber ≤ b.partNumber :=
      ⟨fun _ _ _ => Nat.le_trans⟩
    exact List.pairwise_insertionSort _ _
  have ascending : (List.range' 1 parts.length).Pairwise (· ≤ ·) :=
    List.Pairwise.imp Nat.le_of_lt List.pairwise_lt_range'
  have numbered : (completedMultipartUpload upload.completedParts).map UploadedPart.partNumber =
      List.range' 1 parts.length :=
    perm.eq_of_pairwise (fun _ _ _ _ => Nat.le_antisymm) sorted ascending
  refine ⟨numbered, ?_⟩
  have assembled := @assemble_from parts upload.stored _ 0
    (fun part member => carries.inStorage part (sortedPerm.mem_iff.mp member)) numbered
  rw [assembled, List.drop_zero]

end Carries

end TweetDb.Transfer
