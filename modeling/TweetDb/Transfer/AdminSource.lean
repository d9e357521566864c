import TweetDb.Transfer.Source
import TweetDb.Tweet.VersionHistory

/-! # The source of a task an administrator creates

`create_media_transfer_task` chooses the source in SQL, from the stored
resource, by other rules than `select_source`: the content type is compared
exactly, a missing bit rate comes after every other, and the variants of other
types are ordered by their bit rate as well.
-/

namespace TweetDb.Transfer

open Relational Tweet Versions

/-- The row that the query of `create_media_transfer_task` returns (it is the same query in both
admin interfaces), as the task it inserts. -/
def adminTransferTask (choice : VariantChoice) (tables : MediaTables) (mediaId : Int)
    (taskId : Uuid) : Except TransitionError NewTransferTask :=
  let latest := (vLatest tables.resources).find? fun row => decide (row.subjectId = mediaId)
  match tables.media.find mediaId, latest with
  | some media, some resource =>
    let variant := choice.choose ((resource.content.video.map MediaVideo.variants).getD [])
    let sourceUrl :=
      if media.mediaType = .photo then resource.content.mediaUrl
      else (variant.map VideoVariant.url).or resource.content.mediaUrl
    match sourceUrl with
    | none => .error (.badRequest "media has no available transfer source")
    | some sourceUrl => .ok
        { id := taskId
          mediaId := mediaId
          sourceRecordedAt := resource.recordedAt
          sourceUrl := sourceUrl
          sourceKind :=
            if media.mediaType = .photo then "media_url"
            else if variant.isSome then "video_variant" else "media_url"
          sourceContentType :=
            if media.mediaType = .photo then none else variant.bind VideoVariant.contentType }
  | _, _ => .error (.notFound "media resource not found")

/-! ## The documented rule -/

/-- URL and kind of a source. -/
abbrev SourceUrl := String × String

def SelectedTransferSource.url (source : SelectedTransferSource) : SourceUrl :=
  (source.sourceUrl, source.sourceKind)

def taskSource (result : Except TransitionError NewTransferTask) : Option SourceUrl :=
  result.toOption.map fun task => (task.sourceUrl, task.sourceKind)

def isMp4 (variant : TweetModel.VideoVariant) : Bool :=
  eqIgnoreAsciiCase variant.contentType "video/mp4"

/-- Any bit rate is higher than none. -/
def higherBitrate : Option Int → Option Int → Prop
  | some rate, some other => other < rate
  | some _, none => True
  | none, _ => False

instance : DecidableRel higherBitrate
  | some rate, some other => inferInstanceAs (Decidable (other < rate))
  | some _, none => isTrue trivial
  | none, _ => isFalse id

/-- One of the `video/mp4` variants with the highest bit rate. -/
def Highest (variants : List TweetModel.VideoVariant) (variant : TweetModel.VideoVariant) : Prop :=
  isMp4 variant = true ∧
    ∀ other ∈ variants, isMp4 other = true → ¬ higherBitrate other.bitrate variant.bitrate

instance (variants : List TweetModel.VideoVariant) : DecidablePred (Highest variants) :=
  fun _ => inferInstanceAs (Decidable (_ ∧ _))

def variantsOf (resource : TweetModel.MediaResource) : List TweetModel.VideoVariant :=
  (resource.video.map TweetModel.MediaVideo.variants).getD []

/-- The rule of `docs/architecture.md`: `photo` takes `media_url`; the other types take the
`video/mp4` variant with the highest bit rate, else the first variant, else `media_url`. -/
def FollowsRule (mediaType : MediaType) (resource : TweetModel.MediaResource)
    (source : Option SourceUrl) : Prop :=
  let mediaUrl := resource.mediaUrl.map fun url => (url, "media_url")
  match mediaType with
  | .photo => source = mediaUrl
  | .video | .animatedGif =>
    match variantsOf resource with
    | [] => source = mediaUrl
    | first :: rest =>
      if ∃ variant ∈ first :: rest, isMp4 variant = true then
        ∃ variant ∈ first :: rest, Highest (first :: rest) variant ∧
          source = some (variant.url, "video_variant")
      else source = some (first.url, "video_variant")

instance (mediaType : MediaType) (resource : TweetModel.MediaResource)
    (source : Option SourceUrl) : Decidable (FollowsRule mediaType resource source) := by
  unfold FollowsRule
  dsimp only
  split
  · infer_instance
  · split <;> infer_instance
  · split <;> infer_instance

/-! ## Both choices as orders -/

/-- The order in which `select_source` prefers the variants, by their positions. -/
def selectOrder (item : TweetModel.VideoVariant × Nat) : List Int :=
  if isMp4 item.1 then [0, -item.1.bitrate.getD 0, -item.2] else [1, 0, item.2]

section Orders

variable {variants : List TweetModel.VideoVariant} {variant : TweetModel.VideoVariant}

theorem maxByKey_eq_none {α : Type} {key : α → Int} {items : List α} :
    maxByKey key items = none ↔ items = [] := by
  cases items with
  | nil => simp [maxByKey]
  | cons item items =>
    simp only [maxByKey]
    split
    · simp
    · split <;> simp

/-- The last of the greatest has the others before it or below it. -/
theorem maxByKey_position {key : TweetModel.VideoVariant → Int} (start : Nat)
    (found : maxByKey key (variants.filter isMp4) = some variant) :
    ∃ position, (variant, position) ∈ variants.zipIdx start ∧ isMp4 variant = true ∧
      ∀ other ∈ variants.zipIdx start, isMp4 other.1 = true →
        key other.1 < key variant ∨ key other.1 = key variant ∧ other.2 ≤ position := by
  -- Induction from the front: the best of the rest only loses to a first variant above it, since
  -- `max_by_key` keeps the last of equal ones.
  induction variants generalizing start variant with
  | nil => cases found
  | cons first rest inductionHypothesis =>
    rw [List.zipIdx_cons]
    by_cases mp4 : isMp4 first = true
    · rw [List.filter_cons_of_pos mp4, maxByKey] at found
      cases later : maxByKey key (rest.filter isMp4) with
      | none =>
        simp only [later, Option.some.injEq] at found
        subst found
        have noneLater : rest.filter isMp4 = [] := maxByKey_eq_none.mp later
        refine ⟨start, List.mem_cons_self, mp4, fun other member otherMp4 => ?_⟩
        rcases List.mem_cons.mp member with rfl | inRest
        · exact .inr ⟨rfl, le_refl _⟩
        · have kept : other.1 ∈ rest.filter isMp4 :=
            List.mem_filter.mpr ⟨List.fst_mem_of_mem_zipIdx inRest, otherMp4⟩
          rw [noneLater] at kept
          cases kept
      | some best =>
        obtain ⟨position, member, bestMp4, greatest⟩ := inductionHypothesis (start + 1) later
        simp only [later] at found
        by_cases below : key first ≤ key best
        · rw [if_pos below, Option.some.injEq] at found
          subst found
          refine ⟨position, List.mem_cons_of_mem _ member, bestMp4, ?_⟩
          intro other among otherMp4
          rcases List.mem_cons.mp among with rfl | inRest
          · have later := List.le_snd_of_mem_zipIdx member
            show key first < key best ∨ key first = key best ∧ start ≤ position
            omega
          · exact greatest other inRest otherMp4
        · rw [if_neg below, Option.some.injEq] at found
          subst found
          refine ⟨start, List.mem_cons_self, mp4, fun other among otherMp4 => ?_⟩
          rcases List.mem_cons.mp among with rfl | inRest
          · exact .inr ⟨rfl, le_refl _⟩
          · have less := greatest other inRest otherMp4
            omega
    · rw [List.filter_cons_of_neg mp4] at found
      obtain ⟨position, member, bestMp4, greatest⟩ := inductionHypothesis (start + 1) found
      refine ⟨position, List.mem_cons_of_mem _ member, bestMp4, fun other among otherMp4 => ?_⟩
      rcases List.mem_cons.mp among with rfl | inRest
      · exact absurd otherMp4 mp4
      · exact greatest other inRest otherMp4

theorem bestVariant_eq (variants : List TweetModel.VideoVariant) :
    bestVariant variants =
      (maxByKey (fun variant => variant.bitrate.getD 0) (variants.filter isMp4)).or
        variants.head? :=
  rfl

/-- `select_source` takes the variant that comes first. -/
theorem bestVariant_first (found : bestVariant variants = some variant) :
    ∃ position, First selectOrder variants.zipIdx (variant, position) := by
  rw [bestVariant_eq] at found
  cases highest : maxByKey (fun variant => variant.bitrate.getD 0) (variants.filter isMp4) with
  | some best =>
    rw [highest, Option.some_or, Option.some.injEq] at found
    subst found
    obtain ⟨position, member, mp4, greatest⟩ := maxByKey_position 0 highest
    refine ⟨position, member, fun other among => ?_⟩
    -- An mp4 variant comes before all others; among them the bit rate counts, then the position.
    by_cases otherMp4 : isMp4 other.1 = true
    · have below : other.1.bitrate.getD 0 < best.bitrate.getD 0 ∨
          other.1.bitrate.getD 0 = best.bitrate.getD 0 ∧ other.2 ≤ position :=
        greatest other among otherMp4
      simp only [selectOrder, mp4, otherMp4, if_true, columnsLe_cons, columnsLe_refl,
        lt_self_iff_false, false_or, true_and, and_true]
      omega
    · simp [selectOrder, mp4, otherMp4, columnsLe_cons]
  | none =>
    -- Without an mp4 variant the order is by position, and the code falls back to `first`.
    have noMp4 : variants.filter isMp4 = [] := maxByKey_eq_none.mp highest
    cases variants with
    | nil => cases found
    | cons first rest =>
      rw [highest, Option.none_or, List.head?_cons, Option.some.injEq] at found
      subst found
      rw [List.filter_eq_nil_iff] at noMp4
      refine ⟨0, List.mem_cons_self, fun other among => ?_⟩
      have firstOther := noMp4 first List.mem_cons_self
      have otherOther := noMp4 other.1 (List.fst_mem_of_mem_zipIdx among)
      simp [selectOrder, firstOther, otherOther, columnsLe_cons]
      omega

theorem bestVariant_isSome (nonempty : variants ≠ []) :
    ∃ variant, bestVariant variants = some variant := by
  obtain ⟨first, rest, rfl⟩ := List.exists_cons_of_ne_nil nonempty
  rw [bestVariant_eq]
  cases maxByKey _ ((first :: rest).filter isMp4) with
  | some best => exact ⟨best, rfl⟩
  | none => exact ⟨first, rfl⟩

/-- Positions break every tie. -/
theorem first_selectOrder_unique {first second : TweetModel.VideoVariant × Nat}
    (one : First selectOrder variants.zipIdx first)
    (other : First selectOrder variants.zipIdx second) : first = second := by
  have same := columnsLe_antisymm (one.least second other.member) (other.least first one.member)
  have samePosition : first.2 = second.2 := by
    unfold selectOrder at same
    split at same <;> split at same <;> simp at same <;> omega
  have here := List.mem_zipIdx_iff_getElem?.mp one.member
  have there := List.mem_zipIdx_iff_getElem?.mp other.member
  rw [samePosition, there, Option.some.injEq] at here
  exact Prod.ext here.symm samePosition

end Orders

/-! ## Agreement -/

/-- All variants that one of the two orders may put first have the URL `url`, and a variant with
this URL is one the rule allows. -/
structure OneSource (variants : List TweetModel.VideoVariant) (url : String) : Prop where
  selected : ∀ item ∈ variants.zipIdx, item.1.url ≠ url →
    ∃ other ∈ variants.zipIdx, other.1.url = url ∧
      ¬ columnsLe (selectOrder item) (selectOrder other) = true
  stored : ∀ variant ∈ variants, variant.url ≠ url →
    ∃ other ∈ variants, other.url = url ∧
      ¬ columnsLe (variantOrder variant.payload) (variantOrder other.payload) = true
  rule : (∃ variant ∈ variants, isMp4 variant = true) →
    ∃ variant ∈ variants, Highest variants variant ∧ variant.url = url

/-- Both choose one source, or none, by the rule, whatever PostgreSQL makes of ties. -/
def SourcesAgree (urlPath : String → Option String) (mediaType : MediaType)
    (resource : TweetModel.MediaResource) (tables : MediaTables) : Prop :=
  ∀ (choice : VariantChoice) (taskId : Uuid),
    let selected := (selectSource urlPath mediaType resource).map SelectedTransferSource.url
    let created := taskSource (adminTransferTask choice tables resource.mediaId taskId)
    created = selected ∧ FollowsRule mediaType resource selected ∧
      FollowsRule mediaType resource created

section Agreement

variable {urlPath : String → Option String} {mediaType : MediaType}
  {resource : TweetModel.MediaResource} {tables : MediaTables} {media : Media}
  {latest : MediaResource} {choice : VariantChoice} {taskId : Uuid}

/-- What the query computes from the media row and its latest resource. -/
theorem taskSource_adminTransferTask (isMedia : tables.media.find resource.mediaId = some media)
    (isLatest : (vLatest tables.resources).find?
      (fun row => decide (row.subjectId = resource.mediaId)) = some latest)
    (sameContent : latest.content = resource.payload.content) :
    taskSource (adminTransferTask choice tables resource.mediaId taskId) =
      if media.mediaType = .photo then resource.mediaUrl.map fun url => (url, "media_url")
      else match choice.choose ((variantsOf resource).map TweetModel.VideoVariant.payload) with
        | some variant => some (variant.url, "video_variant")
        | none => resource.mediaUrl.map fun url => (url, "media_url") := by
  -- The stored content is the submitted one, so both sides see the same variants and the same URL.
  have storedVariants : (latest.content.video.map MediaVideo.variants).getD [] =
      (variantsOf resource).map TweetModel.VideoVariant.payload := by
    rw [sameContent]
    cases video : resource.video <;>
      simp [variantsOf, video, TweetModel.MediaResource.payload, TweetModel.MediaVideo.payload]
  have storedUrl : latest.content.mediaUrl = resource.mediaUrl := by
    rw [sameContent]
    rfl
  simp only [adminTransferTask, isMedia, isLatest, storedVariants, storedUrl]
  by_cases photo : media.mediaType = .photo
  · simp only [photo, if_true]
    cases resource.mediaUrl <;> rfl
  · simp only [photo, if_false]
    cases choice.choose ((variantsOf resource).map TweetModel.VideoVariant.payload) with
    | some variant => rfl
    | none => cases resource.mediaUrl <;> rfl

theorem url_selectSource :
    (selectSource urlPath mediaType resource).map SelectedTransferSource.url =
      if mediaType = .photo then resource.mediaUrl.map fun url => (url, "media_url")
      else match bestVariant (variantsOf resource) with
        | some variant => some (variant.url, "video_variant")
        | none => resource.mediaUrl.map fun url => (url, "media_url") := by
  have mediaUrl : (mediaUrlSource urlPath resource).map SelectedTransferSource.url =
      resource.mediaUrl.map fun url => (url, "media_url") := by
    cases url : resource.mediaUrl <;> simp [mediaUrlSource, url, SelectedTransferSource.url]
  have sameVariant : (resource.video.bind fun video => bestVariant video.variants) =
      bestVariant (variantsOf resource) := by
    cases video : resource.video <;> simp [variantsOf, video, bestVariant, maxByKey]
  cases mediaType with
  | photo => simp [selectSource, mediaUrl]
  | video | animatedGif =>
    simp only [selectSource, sameVariant, reduceCtorEq, if_false]
    cases bestVariant (variantsOf resource) with
    | some variant => rfl
    | none => exact mediaUrl

/-- Of tied variants any may come out. -/
theorem exists_choice {rows : List VideoVariant} {row : VideoVariant}
    (leads : First variantOrder rows row) :
    ∃ choice : VariantChoice, choice.choose rows = some row := by
  -- A sort that puts `row` first for these rows and sorts as usual for all others.
  refine ⟨
    { choose := fun variants =>
        if variants = rows then some row else VariantChoice.sorted.choose variants
      isSome := ?_
      least := ?_ }, if_pos rfl⟩
  · intro variants nonempty
    split
    · rfl
    · exact VariantChoice.sorted.isSome nonempty
  · intro variants variant chosen
    split at chosen
    next same =>
      cases chosen
      subst same
      exact ⟨leads.member, leads.least⟩
    next => exact VariantChoice.sorted.least chosen

theorem choice_first {variants : List VideoVariant} (nonempty : variants ≠ []) :
    ∃ variant, choice.choose variants = some variant ∧ First variantOrder variants variant := by
  obtain ⟨variant, chosen⟩ := Option.isSome_iff_exists.mp (choice.isSome nonempty)
  have leads := choice.least chosen
  exact ⟨variant, chosen, leads.1, leads.2⟩

section Variants

variable {variants : List TweetModel.VideoVariant} {best : TweetModel.VideoVariant} {url : String}

theorem selected_iff (found : bestVariant variants = some best) :
    best.url = url ↔ ∀ item ∈ variants.zipIdx, item.1.url ≠ url →
      ∃ other ∈ variants.zipIdx, other.1.url = url ∧
        ¬ columnsLe (selectOrder item) (selectOrder other) = true := by
  obtain ⟨position, leads⟩ := bestVariant_first found
  have loses := @forall_first_iff _ selectOrder variants.zipIdx fun item => item.1.url = url
  rw [← loses]
  constructor
  · intro same item leads'
    rw [first_selectOrder_unique leads' leads]
    exact same
  · intro same
    exact same _ leads

theorem stored_iff :
    (∀ variant, First variantOrder (variants.map TweetModel.VideoVariant.payload) variant →
      variant.url = url) ↔
    ∀ variant ∈ variants, variant.url ≠ url → ∃ other ∈ variants, other.url = url ∧
      ¬ columnsLe (variantOrder variant.payload) (variantOrder other.payload) = true := by
  rw [forall_first_iff]
  simp only [List.mem_map, forall_exists_index, and_imp, forall_apply_eq_imp_iff₂,
    exists_exists_and_eq_and]
  rfl

theorem bestVariant_of_noMp4 {first : TweetModel.VideoVariant}
    {rest : List TweetModel.VideoVariant}
    (noMp4 : ¬ ∃ variant ∈ first :: rest, isMp4 variant = true) :
    bestVariant (first :: rest) = some first := by
  have noneLeft : (first :: rest).filter isMp4 = [] := by
    rw [List.filter_eq_nil_iff]
    intro variant member mp4
    exact noMp4 ⟨variant, member, mp4⟩
  rw [bestVariant_eq, noneLeft]
  rfl

theorem followsRule_iff (notPhoto : mediaType ≠ .photo)
    (found : bestVariant (variantsOf resource) = some best) :
    FollowsRule mediaType resource (some (best.url, "video_variant")) ↔
      ((∃ variant ∈ variantsOf resource, isMp4 variant = true) →
        ∃ variant ∈ variantsOf resource, Highest (variantsOf resource) variant ∧
          variant.url = best.url) := by
  cases variants : variantsOf resource with
  | nil =>
    rw [variants] at found
    cases found
  | cons first rest =>
    rw [variants] at found
    have rule : FollowsRule mediaType resource (some (best.url, "video_variant")) ↔
        if ∃ variant ∈ first :: rest, isMp4 variant = true then
          ∃ variant ∈ first :: rest, Highest (first :: rest) variant ∧
            some (best.url, "video_variant") = some (variant.url, "video_variant")
        else some (best.url, "video_variant") = some (first.url, "video_variant") := by
      cases mediaType with
      | photo => exact absurd rfl notPhoto
      | video | animatedGif =>
        simp only [FollowsRule]
        rw [variants]
    rw [rule]
    -- Without an mp4 variant the rule asks for the first one, which is what `select_source` takes.
    by_cases mp4 : ∃ variant ∈ first :: rest, isMp4 variant = true
    · rw [if_pos mp4, imp_iff_right mp4]
      simp only [Option.some.injEq, Prod.mk.injEq, and_true, @eq_comm _ best.url]
    · rw [bestVariant_of_noMp4 mp4, Option.some.injEq] at found
      rw [if_neg mp4]
      exact iff_of_true (by rw [found]) fun present => absurd present mp4

end Variants

/-- The two choices agree and follow the rule exactly for a photo, for a resource without variants,
and where one URL comes first in both orders and is allowed by the rule. -/
theorem sources_agree_iff (isMedia : tables.media.find resource.mediaId = some media)
    (sameType : media.mediaType = mediaType)
    (isLatest : (vLatest tables.resources).find?
      (fun row => decide (row.subjectId = resource.mediaId)) = some latest)
    (sameContent : latest.content = resource.payload.content) :
    SourcesAgree urlPath mediaType resource tables ↔
      mediaType = .photo ∨ variantsOf resource = [] ∨
        ∃ url, OneSource (variantsOf resource) url := by
  unfold SourcesAgree
  simp only [taskSource_adminTransferTask isMedia isLatest sameContent, url_selectSource, sameType]
  -- A photo, and a resource without variants, leave both with the media URL.
  by_cases photo : mediaType = .photo
  · simp [photo, FollowsRule]
  by_cases empty : variantsOf resource = []
  · have noChoice : ∀ choice : VariantChoice, choice.choose [] = none := by
      intro choice
      cases chosen : choice.choose [] with
      | none => rfl
      | some variant => cases (choice.least chosen).1
    have rule : FollowsRule mediaType resource
        (resource.mediaUrl.map fun url => (url, "media_url")) := by
      cases mediaType with
      | photo => exact absurd rfl photo
      | video | animatedGif => simp [FollowsRule, empty]
    simp [photo, empty, noChoice, bestVariant, maxByKey, rule]
  obtain ⟨best, found⟩ := bestVariant_isSome empty
  simp only [photo, empty, if_false, false_or, found]
  have nonempty : (variantsOf resource).map TweetModel.VideoVariant.payload ≠ [] := by
    simpa using empty
  constructor
  -- Each variant that may come first in SQL does so under some choice, and has the selected URL.
  · intro agree
    refine ⟨best.url, (selected_iff found).mp rfl, stored_iff.mp fun variant leads => ?_, ?_⟩
    · obtain ⟨choice, chosen⟩ := exists_choice leads
      have same := (agree choice 0).1
      simp only [chosen, Option.some.injEq, Prod.mk.injEq, and_true] at same
      exact same
    · exact (followsRule_iff photo found).mp (agree .sorted 0).2.1
  · rintro ⟨url, one⟩ choice taskId
    have sameUrl := (selected_iff found).mpr one.selected
    obtain ⟨variant, chosen, leads⟩ := @choice_first choice _ nonempty
    have stored := stored_iff.mpr one.stored variant leads
    rw [← sameUrl] at stored
    have rule := (followsRule_iff photo found).mpr (sameUrl ▸ one.rule)
    simp only [chosen, stored]
    exact ⟨trivial, rule, rule⟩

end Agreement

/-- Media 5, a video with one resource of time 1. -/
def storedVideo (variants : List VideoVariant) : MediaTables where
  media := ⟨[⟨5, .video, none, none, none, none, [], [], none, none, none⟩],
    List.pairwise_singleton _ _⟩
  resources := ⟨[⟨5, 1, none, none, some ⟨none, none, none, variants⟩⟩],
    List.pairwise_singleton _ _⟩

def videoResource (variants : List TweetModel.VideoVariant) : TweetModel.MediaResource :=
  ⟨5, 1, none, none, some ⟨none, none, none, variants⟩⟩

/-- A playlist and two `video/mp4` variants. -/
theorem sources_agree_iff_ordinary :
    SourcesAgree (fun _ => none) .video
      (videoResource [⟨"application/x-mpegURL", none, "a.m3u8"⟩,
        ⟨"video/mp4", some 632000, "low.mp4"⟩, ⟨"video/mp4", some 2176000, "high.mp4"⟩])
      (storedVideo [⟨some "application/x-mpegURL", none, "a.m3u8"⟩,
        ⟨some "video/mp4", some 632000, "low.mp4"⟩,
        ⟨some "video/mp4", some 2176000, "high.mp4"⟩]) := by
  refine (@sources_agree_iff _ .video _ _ _ _ rfl rfl rfl rfl).mpr
    (.inr (.inr ⟨"high.mp4", ?_, ?_, fun _ => ?_⟩))
  · decide
  · decide
  · decide

/-- Without an mp4 variant the rule and `select_source` take the first variant, SQL the one with a
bit rate. -/
theorem first_variant_passed_over :
    let resource := videoResource [⟨"application/x-mpegURL", none, "a.m3u8"⟩,
      ⟨"video/webm", some 832000, "b.webm"⟩]
    let tables := storedVideo [⟨some "application/x-mpegURL", none, "a.m3u8"⟩,
      ⟨some "video/webm", some 832000, "b.webm"⟩]
    ((selectSource (fun _ => none) .video resource).map SelectedTransferSource.url =
      some ("a.m3u8", "video_variant")) ∧
    (taskSource (adminTransferTask .sorted tables 5 7) = some ("b.webm", "video_variant")) ∧
    FollowsRule .video resource (some ("a.m3u8", "video_variant")) ∧
    ¬ FollowsRule .video resource (some ("b.webm", "video_variant")) ∧
    ¬ SourcesAgree (fun _ => none) .video resource tables := by
  refine ⟨by decide, by decide, by decide, by decide, fun agree => ?_⟩
  have same := (agree .sorted 7).1
  revert same
  decide

end TweetDb.Transfer
