import TweetDb.Relational.Select
import TweetDb.Transfer.Queue
import TweetDb.Tweet.Payloads

/-! # Transfer sources

`select_source` picks a source from the submitted object.  `enqueue_tasks`
recognises it again in SQL: it takes the resource stored at the requested time,
or the newest earlier one whose recomputed URL is the one asked for.
-/

namespace TweetDb.Transfer

open Relational Tweet

/-! ## Content types -/

/-- `normalize_content_type`. -/
def normalizeContentType (value : Option String) : Option String :=
  let value := (value.map trim).filter fun value => !value.isEmpty
  let value := value.map fun value => trim ((value.splitOn ";").headD value)
  value.filter fun value => !value.isEmpty

/-- `Path::file_name`: the last component, unless it is `..`. -/
def fileName (path : String) : Option String :=
  let components := (path.splitOn "/").filter fun part => !part.isEmpty && part != "."
  components.getLast?.filter fun name => name != ".."

/-- `Path::extension`: what follows the last dot, if something stands before it. -/
def fileExtension (path : String) : Option String :=
  (fileName path).bind fun name =>
    match (name.splitOn ".").reverse with
    | extension :: before =>
      if before.isEmpty || before == [""] then none else some extension
    | [] => none

/-- `infer_extension_from_url`; `urlPath` is the path `Url::parse` finds. -/
def inferExtensionFromUrl (urlPath : String → Option String) (sourceUrl : String) :
    Option String :=
  let path := (urlPath sourceUrl).getD (String.ofList (sourceUrl.toList.takeWhile
    fun c => c != '?' && c != '#'))
  ((fileExtension path).map String.toLower).filter fun value => !value.isEmpty

/-- `infer_content_type_from_url`. -/
def inferContentTypeFromUrl (urlPath : String → Option String) (sourceUrl : String) :
    Option String :=
  match inferExtensionFromUrl urlPath sourceUrl with
  | some "jpg" | some "jpeg" => some "image/jpeg"
  | some "png" => some "image/png"
  | some "webp" => some "image/webp"
  | some "gif" => some "image/gif"
  | some "mp4" | some "m4v" | some "mov" => some "video/mp4"
  | some "m3u8" => some "application/x-mpegURL"
  | _ => none

/-- `resolve_upload_content_type`. -/
def resolveUploadContentType (urlPath : String → Option String)
    (explicitContentType : Option String) (sourceUrl : String) : String :=
  ((normalizeContentType explicitContentType).or
    (inferContentTypeFromUrl urlPath sourceUrl)).getD "application/octet-stream"

/-! ## The source a submitted object offers -/

structure SelectedTransferSource where
  sourceUrl : String
  sourceKind : String
  sourceContentType : Option String
deriving DecidableEq, Repr

/-- `Iterator::max_by_key`: of several greatest elements the last. -/
def maxByKey {α : Type} (key : α → Int) : List α → Option α
  | [] => none
  | item :: items =>
    match maxByKey key items with
    | none => some item
    | some best => if key item ≤ key best then some best else some item

def mediaUrlSource (urlPath : String → Option String) (resource : TweetModel.MediaResource) :
    Option SelectedTransferSource :=
  resource.mediaUrl.map fun sourceUrl =>
    { sourceUrl := sourceUrl
      sourceKind := "media_url"
      sourceContentType := some (resolveUploadContentType urlPath none sourceUrl) }

/-- The best `video/mp4` variant, or the first of any type. -/
def bestVariant (variants : List TweetModel.VideoVariant) : Option TweetModel.VideoVariant :=
  (maxByKey (fun variant => variant.bitrate.getD 0)
    (variants.filter fun variant => eqIgnoreAsciiCase variant.contentType "video/mp4")).or
      variants.head?

def selectSource (urlPath : String → Option String) (mediaType : MediaType)
    (resource : TweetModel.MediaResource) : Option SelectedTransferSource :=
  match mediaType with
  | .photo => mediaUrlSource urlPath resource
  | .video | .animatedGif =>
    match resource.video.bind fun video => bestVariant video.variants with
    | some variant => some
        { sourceUrl := variant.url
          sourceKind := "video_variant"
          sourceContentType := some variant.contentType }
    | none => mediaUrlSource urlPath resource

/-! ## The source found again -/

/-- `ORDER BY CASE WHEN value = 'video/mp4' THEN 0 ELSE 1 END, bitrate DESC NULLS LAST`. -/
def variantOrder (variant : VideoVariant) : List Int :=
  [if variant.contentType = some "video/mp4" then 0 else 1,
    if variant.bitrate.isSome then 0 else 1,
    -variant.bitrate.getD 0]

/-- `LIMIT 1`: which of several first variants comes out is not specified. -/
structure VariantChoice where
  choose : List VideoVariant → Option VideoVariant
  isSome : ∀ {variants}, variants ≠ [] → (choose variants).isSome = true
  least : ∀ {variants variant}, choose variants = some variant →
    variant ∈ variants ∧
      ∀ other ∈ variants, columnsLe (variantOrder variant) (variantOrder other) = true

/-- The choice of a stable sort. -/
def VariantChoice.sorted : VariantChoice where
  choose variants := (orderBy variantOrder variants).head?
  isSome := by
    intro variants nonempty
    obtain ⟨variant, present⟩ := List.exists_mem_of_ne_nil _ nonempty
    obtain ⟨first, found⟩ := head?_orderBy_isSome present
    rw [found]
    rfl
  least := head?_orderBy

/-- `COALESCE(variant.url, resource.media_url)`. -/
def VariantChoice.sourceUrl (choice : VariantChoice) (content : MediaResourceColumns) :
    Option String :=
  match choice.choose ((content.video.map MediaVideo.variants).getD []) with
  | some variant => some variant.url
  | none => content.mediaUrl

structure EnqueueTransferTask where
  id : Uuid
  mediaId : Int
  sourceRecordedAt : Timestamp
  sourceUrl : String
  sourceKind : String
  sourceContentType : Option String
deriving DecidableEq, Repr

/-- The task `enqueue_prepared_media_transfers` pushes. -/
def SelectedTransferSource.task (source : SelectedTransferSource) (id : Uuid)
    (resource : TweetModel.MediaResource) : EnqueueTransferTask where
  id := id
  mediaId := resource.mediaId
  sourceRecordedAt := resource.recordedAt
  sourceUrl := source.sourceUrl
  sourceKind := source.sourceKind
  sourceContentType := source.sourceContentType

inductive TransferEnqueueStatus where
  | enqueued
  | alreadyQueued
  | missingSourceRecord
deriving DecidableEq, Repr

/-- The lateral query of `resolved_source`. -/
def resolveSource (choice : VariantChoice) (resources : Table MediaResource)
    (task : EnqueueTransferTask) : Option MediaResource :=
  let candidates := resources.rows.filter fun resource =>
    decide (resource.subjectId = task.mediaId) &&
      decide (resource.recordedAt ≤ task.sourceRecordedAt) &&
      (decide (resource.recordedAt = task.sourceRecordedAt) ||
        decide (choice.sourceUrl resource.content = some task.sourceUrl))
  (orderBy (fun resource => [if resource.recordedAt = task.sourceRecordedAt then 0 else 1,
    -resource.recordedAt]) candidates).head?

def EnqueueTransferTask.insertAt (task : EnqueueTransferTask) (source : MediaResource) :
    NewTransferTask where
  id := task.id
  mediaId := task.mediaId
  sourceRecordedAt := source.recordedAt
  sourceUrl := task.sourceUrl
  sourceKind := task.sourceKind
  sourceContentType := task.sourceContentType

def distinctTasks (tasks : List EnqueueTransferTask) : List EnqueueTransferTask :=
  distinctOn (fun task => (task.mediaId, task.sourceRecordedAt))
    (orderBy (fun task => [task.mediaId, task.sourceRecordedAt]) tasks)

def hasTaskFor (queue : Table TransferTask) (mediaId : Int) (sourceRecordedAt : Timestamp) : Bool :=
  queue.rows.any fun task =>
    decide (task.mediaId = mediaId) && decide (task.sourceRecordedAt = sourceRecordedAt)

/-- `enqueue_tasks`: a source is newly inserted if no task had it when the statement began. -/
def enqueueTasks (choice : VariantChoice) (now : Timestamp) (tasks : List EnqueueTransferTask)
    (resources : Table MediaResource) (queue : Table TransferTask) :
    Option (List ((Int × Timestamp) × TransferEnqueueStatus) × Table TransferTask) :=
  let input := distinctTasks tasks
  let new := input.filterMap fun task =>
    (resolveSource choice resources task).map task.insertAt
  (insertTasks now new queue).map fun queue' =>
    (input.map fun task => ((task.mediaId, task.sourceRecordedAt),
      match resolveSource choice resources task with
      | none => .missingSourceRecord
      | some source =>
        if hasTaskFor queue task.mediaId source.recordedAt then .alreadyQueued else .enqueued),
      queue')

end TweetDb.Transfer
