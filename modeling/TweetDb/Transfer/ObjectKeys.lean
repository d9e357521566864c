import TweetDb.Text.Uuid
import TweetDb.Transfer.Multipart
import TweetDb.Transfer.Source

/-! # Object keys

`build_object_key` writes the media and the task into the key.  Under one
configured prefix the task can be read off again: the media id has no slash and
the identifier no dot.
-/

namespace TweetDb.Transfer

/-- The fields of the storage section that a key is made of. -/
structure StorageSection where
  provider : String
  bucket : String
  objectKeyPrefix : String
deriving DecidableEq, Repr

/-- `prefix.trim_matches('/')`. -/
def trimSlashes (value : String) : String :=
  trimEndMatches (fun c => c == '/') (trimStartMatches (fun c => c == '/') value)

def buildObjectKey (keyPrefix : String) (mediaId : Int) (taskId : Uuid) (extension : String) :
    String :=
  let trimmedPrefix := trimSlashes keyPrefix
  if trimmedPrefix.isEmpty then s!"{mediaId}/{uuidText taskId}.{extension}"
  else s!"{trimmedPrefix}/{mediaId}/{uuidText taskId}.{extension}"

example : buildObjectKey "media" 1712345678901234567 0x0195f1df07307f699a92cd8e4eb4d001 "jpg" =
    "media/1712345678901234567/0195f1df-0730-7f69-9a92-cd8e4eb4d001.jpg" := by
  decide +kernel

def extensionFromContentType (contentType : String) : Option String :=
  (normalizeContentType (some contentType)).bind fun normalized =>
    if eqIgnoreAsciiCase normalized "image/jpeg" then some "jpg"
    else if eqIgnoreAsciiCase normalized "image/png" then some "png"
    else if eqIgnoreAsciiCase normalized "image/webp" then some "webp"
    else if eqIgnoreAsciiCase normalized "image/gif" then some "gif"
    else if eqIgnoreAsciiCase normalized "video/mp4" then some "mp4"
    else if eqIgnoreAsciiCase normalized "application/x-mpegurl" ||
        eqIgnoreAsciiCase normalized "application/vnd.apple.mpegurl" then some "m3u8"
    else none

def resolveUploadExtension (urlPath : String → Option String) (contentType sourceUrl : String) :
    String :=
  ((extensionFromContentType contentType).or (inferExtensionFromUrl urlPath sourceUrl)).getD "bin"

/-- `prepare_upload`; `id` is the new UUID. -/
def prepareUpload (urlPath : String → Option String) (storage : StorageSection) (id : Uuid)
    (mediaId : Int) (taskId : Uuid) (sourceUrl : String) (explicitContentType : Option String) :
    PreparedStorageObject :=
  let contentType := resolveUploadContentType urlPath explicitContentType sourceUrl
  { id
    provider := storage.provider
    bucket := storage.bucket
    objectKey := buildObjectKey storage.objectKeyPrefix mediaId taskId
      (resolveUploadExtension urlPath contentType sourceUrl)
    contentType }

theorem prepareUpload_location {urlPath : String → Option String} {storage : StorageSection}
    {id taskId : Uuid} {mediaId : Int} {sourceUrl : String} {explicitContentType : Option String} :
    let object := prepareUpload urlPath storage id mediaId taskId sourceUrl explicitContentType
    object.provider = storage.provider ∧ object.bucket = storage.bucket ∧
      ∃ extension, object.objectKey =
        buildObjectKey storage.objectKeyPrefix mediaId taskId extension := by
  simp only [prepareUpload, true_and]
  exact ⟨_, rfl⟩

/-! ## Keys name their task -/

section Keys

variable {keyPrefix extension extension' : String} {mediaId mediaId' : Int} {taskId taskId' : Uuid}

/-- Two texts are cut at the first separator in the same way. -/
theorem cut_first {α : Type} {separator : α} {before before' after after' : List α}
    (absent : separator ∉ before) (absent' : separator ∉ before')
    (same : before ++ separator :: after = before' ++ separator :: after') :
    before = before' ∧ after = after' := by
  induction before generalizing before' with
  | nil =>
    cases before' with
    | nil => simpa using same
    | cons item before' =>
      simp only [List.nil_append, List.cons_append, List.cons.injEq] at same
      simp [same.1] at absent'
  | cons item before inductionHypothesis =>
    cases before' with
    | nil =>
      simp only [List.nil_append, List.cons_append, List.cons.injEq] at same
      simp [same.1] at absent
    | cons item' before' =>
      simp only [List.cons_append, List.cons.injEq, List.mem_cons, not_or] at same absent absent'
      obtain ⟨rest, afterSame⟩ := inductionHypothesis absent.2 absent'.2 same.2
      rw [same.1, rest]
      exact ⟨rfl, afterSame⟩

theorem slash_notMem_intText (n : Int) : '/' ∉ (toString n).toList := by
  have digits : ∀ m : Nat, '/' ∉ Nat.toDigits 10 m := by
    intro m present
    have isDigit := Nat.isDigit_of_mem_toDigits (by omega) (by omega) present
    simp [Char.isDigit] at isDigit
  cases n with
  | ofNat m =>
    show '/' ∉ (Nat.repr m).toList
    simp [digits]
  | negSucc m =>
    show '/' ∉ ("-" ++ Nat.repr (m + 1)).toList
    simp [digits]

theorem dot_notMem_uuidText (id : Uuid) : '.' ∉ (uuidText id).toList := by
  intro present
  rcases isAlphanum_uuidText present with alphanum | hyphen
  · delta Char.isAlphanum Char.isAlpha Char.isUpper Char.isLower Char.isDigit at alphanum
    simp at alphanum
  · simp at hyphen

/-- What stands before the media id depends on the configuration alone. -/
theorem toList_buildObjectKey (keyPrefix : String) :
    ∃ start : List Char, ∀ mediaId taskId extension,
      (buildObjectKey keyPrefix mediaId taskId extension).toList =
        start ++ ((toString mediaId).toList ++ '/' ::
          ((uuidText taskId).toList ++ '.' :: extension.toList)) := by
  by_cases isEmpty : (trimSlashes keyPrefix).isEmpty = true
  · exact ⟨[], fun mediaId taskId extension => by
      simp [buildObjectKey, isEmpty, toString]⟩
  · exact ⟨(trimSlashes keyPrefix).toList ++ ['/'], fun mediaId taskId extension => by
      simp [buildObjectKey, isEmpty, toString]⟩

theorem buildObjectKey_injective (bound : taskId < 2 ^ 128) (bound' : taskId' < 2 ^ 128)
    (same : buildObjectKey keyPrefix mediaId taskId extension =
      buildObjectKey keyPrefix mediaId' taskId' extension') :
    taskId = taskId' ∧ extension = extension' := by
  obtain ⟨start, key_eq⟩ := toList_buildObjectKey keyPrefix
  have sameChars := congrArg String.toList same
  rw [key_eq, key_eq, List.append_cancel_left_eq] at sameChars
  -- The media id has no slash and the identifier has no dot; the extension may have both.
  obtain ⟨_, named⟩ :=
    cut_first (slash_notMem_intText mediaId) (slash_notMem_intText mediaId') sameChars
  obtain ⟨sameTask, sameExtension⟩ :=
    cut_first (dot_notMem_uuidText taskId) (dot_notMem_uuidText taskId') named
  constructor
  · exact uuidText_injective bound bound' (String.toList_injective sameTask)
  · exact String.toList_injective sameExtension

end Keys

end TweetDb.Transfer
