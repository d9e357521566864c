import TweetDb.Query.TextRoundTrip
import TweetDb.Submit.Repeat

/-! # Users that are sent back

The object of a stored user is read as an item whose parts are converted, and
the batch of that item repeats the rows the object was built from.
-/

namespace TweetDb.Query

open Json Relational Submit TweetModel
open TweetDb.Tweet (TwitterUser UserDisclosure UserFeatures UserIdentity UserProfessional
  UserSnapshotColumns UserStatsColumns UserVerification Version)

/-! ## Times -/

section Times

theorem postgresTimestamptz_microseconds (time : Timestamp) :
    postgresTimestamptz (time * 1000) = time := by
  have whole : ∀ number : Int, number * 1000 / 1000 = number := by omega
  exact whole time

theorem roundedTimestamptz_microseconds (time : Timestamp) :
    roundedTimestamptz (time * 1000) = time := by
  have whole : ∀ number : Int, (number * 1000 + 500) / 1000 = number := by omega
  exact whole time

variable {context : BuildContext} (lawful : context.formats.Lawful)

include lawful

theorem decodeTime_timeJson {time : Timestamp} (isReadable : readable time = true) :
    decodeTime context.formats.parseTime (context.timeJson time) = some (time * 1000) :=
  lawful.parseTime time isReadable

theorem nullable_timeJson {time : Timestamp} (isReadable : readable time = true) :
    nullable (decodeTime context.formats.parseTime) (context.timeJson time) =
      some (some (time * 1000)) :=
  nullable_of_some rfl (decodeTime_timeJson lawful isReadable)

theorem nullable_nullOr_timeJson {time : Option Timestamp}
    (areReadable : ∀ part ∈ time, readable part = true) :
    nullable (decodeTime context.formats.parseTime) (nullOr context.timeJson time) =
      some (time.map (· * 1000)) := by
  cases time with
  | none => rfl
  | some time => exact nullable_timeJson lawful (areReadable time rfl)

end Times

/-! ## Ids -/

@[simp] theorem text_idJson (id : Int) : text (BuildContext.idJson id) = some (toString id) := rfl

@[simp] theorem nullable_text_nullOr_idJson (id : Option Int) :
    nullable text (nullOr BuildContext.idJson id) = some (id.map toString) := by
  cases id <;> rfl

@[simp] theorem items_text_list_idJson (ids : List Int) :
    items text (list BuildContext.idJson ids) = some (ids.map toString) := by
  have texts : list BuildContext.idJson ids = list .string (ids.map toString) := by
    simp only [list, List.map_map]
    rfl
  rw [texts, items_text_list]

/-! ## Optional parts -/

section Related

variable {α β : Type} {same : α → β → Prop} {value : Option α} {item : Option β}

theorem exists_of_rel (each : Option.Rel same value item) {part : β} (isPart : part ∈ item) :
    ∃ stored ∈ value, same stored part := by
  cases each with
  | none => cases isPart
  | some related =>
    cases isPart
    exact ⟨_, rfl, related⟩

theorem transpose_of_rel {convert : β → Except String α} (each : Option.Rel same value item)
    (converts : ∀ part ∈ item, ∀ stored ∈ value, same stored part → convert part = .ok stored) :
    transpose convert item = .ok value := by
  cases each with
  | none => rfl
  | some related =>
    rw [transpose, converts _ rfl _ rfl related]
    rfl

theorem transpose_map {convert : β → Except String α} {write : α → β}
    (converts : ∀ part ∈ value, convert (write part) = .ok part) :
    transpose convert (value.map write) = .ok value := by
  cases value with
  | none => rfl
  | some part =>
    rw [Option.map_some, transpose, converts part rfl]
    rfl

end Related

namespace BuildContext

variable {context : BuildContext}

/-! ## Parts of a user -/

theorem reads_buildUserVerificationJson {verification : UserVerification} {written : Value}
    (built : context.buildUserVerificationJson verification = .ok written) (_ : True) :
    Reads decodeUserVerification (fun verification item =>
      item = ⟨verification.isBlueVerified, verification.verifiedType⟩) verification written := by
  obtain ⟨verificationType, isType, built⟩ := bind_eq_ok built
  cases built
  rw [eq_of_resolveOptionalString isType]
  refine ⟨_, ?_, rfl⟩
  simp [decodeUserVerification, Json.optional, List.lookup_cons]

theorem reads_buildUserDisclosureJson {disclosure : UserDisclosure} {written : Value}
    (built : context.buildUserDisclosureJson disclosure = .ok written) (_ : True) :
    Reads decodeUserDisclosure (fun disclosure item =>
      item = ⟨disclosure.relation, disclosure.subjectId.map toString, disclosure.subjectHandle,
        disclosure.subjectName, disclosure.subjectUrl⟩) disclosure written := by
  obtain ⟨relation, isRelation, built⟩ := bind_eq_ok built
  cases built
  rw [eq_of_resolveOptionalString isRelation]
  refine ⟨_, ?_, rfl⟩
  simp [decodeUserDisclosure, Json.optional, List.lookup_cons]

theorem reads_buildUserIdentityJson {identity : UserIdentity} {written : Value}
    (built : context.buildUserIdentityJson identity = .ok written) (valid : identity.Valid) :
    Reads decodeUserIdentity (fun identity item => convertUserIdentity item = .ok identity)
      identity written := by
  obtain ⟨verification, verificationBuilt, built⟩ := bind_eq_ok built
  obtain ⟨disclosure, disclosureBuilt, built⟩ := bind_eq_ok built
  obtain ⟨parodyLabel, isLabel, built⟩ := bind_eq_ok built
  cases built
  rw [eq_of_resolveOptionalString isLabel]
  obtain ⟨verificationItem, readVerification, isVerification⟩ :=
    reads_buildOption rfl reads_buildUserVerificationJson verificationBuilt fun _ _ => trivial
  obtain ⟨disclosureItem, readDisclosure, isDisclosure⟩ :=
    reads_buildOption rfl reads_buildUserDisclosureJson disclosureBuilt fun _ _ => trivial
  refine ⟨⟨verificationItem, disclosureItem, identity.parodyLabel,
    identity.hasCompletedNewAccountReview, identity.isPossiblySensitive⟩, ?_, ?_⟩
  · simp [decodeUserIdentity, Json.optional, List.lookup_cons, readVerification, readDisclosure]
  · obtain ⟨verification, disclosure, parodyLabel, reviewed, sensitive⟩ := identity
    cases isVerification with
    | none =>
      cases isDisclosure with
      | none => rfl
      | some same =>
        subst same
        simp [convertUserIdentity, transpose, parseOptionalI64Id_toString (valid _ rfl), bind,
          Except.bind, Except.map, pure, Except.pure]
    | some sameVerification =>
      subst sameVerification
      cases isDisclosure with
      | none => rfl
      | some same =>
        subst same
        simp [convertUserIdentity, transpose, parseOptionalI64Id_toString (valid _ rfl), bind,
          Except.bind, Except.map, pure, Except.pure]

/-- The item of the features. -/
def submitUserFeatures (features : UserFeatures) : SubmitUserFeatures :=
  ⟨features.canDm, features.canTagMedia, features.isProtected, features.canBeSubscribed⟩

theorem nullable_buildUserFeaturesJson (features : Option UserFeatures) :
    nullable decodeUserFeatures (nullOr buildUserFeaturesJson features) =
      some (features.map submitUserFeatures) :=
  nullable_nullOr rfl fun part _ => by
    simp [decodeUserFeatures, buildUserFeaturesJson, submitUserFeatures, Json.optional,
      List.lookup_cons]

/-! ## Categories -/

theorem find_of_userCategory {tables : LookupTables} {id : Int} {row : UserCategoryRow}
    (found : tables.userCategory id = some row) :
    row ∈ tables.userCategories.rows ∧
      tables.userCategories.find row.sourceCategoryCode = some row ∧ row.id = id :=
  ⟨List.mem_of_find?_eq_some found, Table.find_of_mem (List.mem_of_find?_eq_some found),
    by simpa using List.find?_some found⟩

/-- The item names a stored category with the id. -/
def StandsForCategory (tables : LookupTables) (categoryId : Int) (item : SubmitUserCategory) :
    Prop :=
  ∃ code, parseInt 32 item.id = some code ∧ tables.KnowsCategory ⟨code, item.name⟩ ∧
    tables.ids.userCategories code = some categoryId

theorem reads_categoryJson (fitting : context.lookups.Fitting) {categoryId : Int} {written : Value}
    (built : context.categoryJson categoryId = .ok written) (_ : True) :
    Reads decodeUserCategory (StandsForCategory context.lookups) categoryId written := by
  unfold categoryJson at built
  split at built
  next row found =>
    cases built
    obtain ⟨member, stored, isId⟩ := find_of_userCategory found
    refine ⟨⟨toString row.sourceCategoryCode, row.name⟩, ?_, row.sourceCategoryCode,
      parseInt_toString (fitting row member), ⟨row, stored, rfl⟩, ?_⟩
    · simp [decodeUserCategory, required, List.lookup_cons, idJson]
    · simp only [LookupTables.ids, stored, Option.map_some, isId]
  next => cases built

/-- The categories of an item, as far as their ids are valid. -/
def validCategories (items : List SubmitUserCategory) : List UserCategory :=
  items.filterMap fun item => (parseInt 32 item.id).map fun code => ⟨code, item.name⟩

/-- Where all of them stand for stored ones, all of them are valid. -/
theorem categories_of_stands {tables : LookupTables} {categoryIds : List Int}
    {items : List SubmitUserCategory}
    (each : List.Forall₂ (StandsForCategory tables) categoryIds items) :
    (items.mapM fun item => do
      let code ← parseI32Id item.id "user.professional.categories.id"
      return (⟨code, item.name⟩ : UserCategory)) = .ok (validCategories items) ∧
    List.Forall₂ (fun categoryId category => tables.KnowsCategory category ∧
      tables.ids.userCategories category.sourceCategoryCode = some categoryId) categoryIds
      (validCategories items) := by
  rw [mapM_eq_ok]
  induction each with
  | nil => exact ⟨.nil, .nil⟩
  | cons stands _ inductionHypothesis =>
    obtain ⟨code, isCode, known, isId⟩ := stands
    obtain ⟨converted, stored⟩ := inductionHypothesis
    rw [validCategories, List.filterMap_cons_some (by rw [isCode]; rfl)]
    refine ⟨.cons ?_ converted, .cons ⟨known, isId⟩ stored⟩
    simp only [parseI32Id, isCode, bind, Except.bind, pure, Except.pure]

/-- The item is converted to the professional. -/
structure StandsForProfessional (tables : LookupTables) (professional : UserProfessional)
    (item : SubmitUserProfessional) : Prop where
  known : ∀ category ∈ validCategories item.categories, tables.KnowsCategory category
  converts : ∀ store ids, (∀ category ∈ validCategories item.categories,
    ids.userCategories category.sourceCategoryCode =
      tables.ids.userCategories category.sourceCategoryCode) →
    convertUserProfessional store (some ids) item = .ok professional

theorem reads_buildUserProfessionalJson (fitting : context.lookups.Fitting)
    {professional : UserProfessional} {written : Value}
    (built : context.buildUserProfessionalJson professional = .ok written)
    (fits : FitsId professional.professionalId) :
    Reads decodeUserProfessional (StandsForProfessional context.lookups) professional written := by
  obtain ⟨professionalType, isType, built⟩ := bind_eq_ok built
  obtain ⟨categories, categoriesBuilt, built⟩ := bind_eq_ok built
  cases built
  rw [eq_of_resolveOptionalString isType]
  obtain ⟨items, readCategories, stand⟩ :=
    reads_buildList (reads_categoryJson fitting) categoriesBuilt fun _ _ => trivial
  obtain ⟨converted, stored⟩ := categories_of_stands stand
  refine ⟨⟨professional.professionalId.map toString, professional.professionalType, items⟩, ?_, ?_,
    fun store ids agree => ?_⟩
  · simp [decodeUserProfessional, Json.optional, listed, defaulted, List.lookup_cons,
      readCategories]
  · intro category member
    obtain ⟨categoryId, _, known, _⟩ := exists_of_forall₂ stored member
    exact known
  · have resolves : (validCategories items).mapM (fun category =>
        resolved "user category" ids.userCategories category.sourceCategoryCode) =
          .ok professional.categoryIds := by
      have each := (List.forall₂_and_left ..).mpr ⟨agree, stored.flip⟩
      refine mapM_eq_ok.mpr (each.imp fun category categoryId both => ?_)
      simp only [resolved, both.1, both.2.2]
    simp only [convertUserProfessional]
    rw [converted]
    simp only [resolves, parseOptionalI64Id_toString fits, bind, Except.bind, pure, Except.pure]

/-! ## Profiles and statistics -/

/-- A profile has the time and the text of its snapshot. -/
structure StandsForProfile (tables : LookupTables) (snapshot : Tweet.UserSnapshot)
    (profile : SubmitUserProfile) : Prop where
  fetchedAt : profile.fetchedAt = some (snapshot.recordedAt * 1000)
  bio : Option.Rel (StandsForText tables) snapshot.content.bio profile.bio

theorem reads_buildUserProfileJson (lawful : context.formats.Lawful)
    {snapshot : Tweet.UserSnapshot} {written : Value}
    (built : context.buildUserProfileJson snapshot = .ok written)
    (valid : snapshot.content.Valid ∧ readable snapshot.recordedAt = true) :
    Reads (decodeUserProfile context.formats.parseTime) (StandsForProfile context.lookups) snapshot
      written := by
  obtain ⟨bio, bioBuilt, built⟩ := bind_eq_ok built
  obtain ⟨avatarShape, isShape, built⟩ := bind_eq_ok built
  cases built
  rw [eq_of_resolveOptionalString isShape]
  obtain ⟨bioItem, readBio, isBio⟩ :=
    reads_buildOption rfl reads_buildAnnotatedTextJson bioBuilt valid.1.bio
  obtain ⟨links, readLinks⟩ : ∃ links, items decodeResolvedUrl
      (list resolvedUrlJson snapshot.content.profileLinks) = some links := by
    obtain ⟨links, readLinks, _⟩ := @reads_list _ _ decodeResolvedUrl (fun _ _ => True)
      resolvedUrlJson snapshot.content.profileLinks fun link _ =>
        ⟨_, decodeResolvedUrl_resolvedUrlJson link, trivial⟩
    exact ⟨links, readLinks⟩
  refine ⟨⟨some (snapshot.recordedAt * 1000), snapshot.content.displayName,
    snapshot.content.userName, snapshot.content.avatarUrl, snapshot.content.usesDefaultAvatar,
    snapshot.content.avatarShape, snapshot.content.bannerUrl, snapshot.content.location, bioItem,
    links⟩, ?_, rfl, isBio⟩
  simp only [decodeUserProfile, record_object, timeField, required, Json.optional, listed,
    defaulted, List.lookup_cons, String.reduceBEq, Option.bind_some, Option.getD_some, text_string,
    nullable_text_nullOr, nullable_boolean_nullOr, nullable_timeJson lawful valid.2, readBio,
    readLinks]
  rfl

/-- The item of the statistics. -/
def submitUserStats (stats : Version UserStatsColumns) : SubmitUserStats :=
  ⟨some (stats.recordedAt * 1000), stats.content.followers, stats.content.following,
    stats.content.likes, stats.content.mediaPosts, stats.content.tweets, stats.content.listed⟩

theorem nullable_buildUserStatsJson (lawful : context.formats.Lawful)
    {stats : Option (Version UserStatsColumns)}
    (areReadable : ∀ row ∈ stats, readable row.recordedAt = true) :
    nullable (decodeUserStats context.formats.parseTime)
      (nullOr context.buildUserStatsJson stats) = some (stats.map submitUserStats) :=
  nullable_nullOr rfl fun row isRow => by
    simp [decodeUserStats, buildUserStatsJson, submitUserStats, timeField, Json.optional,
      List.lookup_cons, nullable_timeJson lawful (areReadable row isRow)]

theorem convertUserStats_of_valid {stats : Version UserStatsColumns} (valid : stats.content.Valid)
    (userId : Int) (parentFetchedAt : Option OffsetDateTime) (now : OffsetDateTime) :
    convertUserStats userId parentFetchedAt (submitUserStats stats) now =
      .ok ⟨userId, stats.recordedAt, stats.content.followers, stats.content.following,
        stats.content.likes, stats.content.mediaPosts, stats.content.tweets,
        stats.content.listed⟩ := by
  have checked : ensureNonnegativeOptions "user.stats" [stats.content.followers,
      stats.content.following, stats.content.likes, stats.content.mediaPosts, stats.content.tweets,
      stats.content.listed] = .ok () := ensureNonnegativeOptions_eq_ok.mpr valid
  have time := postgresTimestamptz_microseconds stats.recordedAt
  simp only [convertUserStats, submitUserStats, checked, Option.some_or, Option.getD_some, time,
    bind, Except.bind,
    pure, Except.pure]

/-! ## Users -/

/-- The parts of the item are converted, to versions of the time the stored ones have. -/
structure StandsForUser (tables : LookupTables) (user : TwitterUser)
    (snapshot : Option Tweet.UserSnapshot) (stats : Option (Version UserStatsColumns))
    (item : SubmitUser) : Prop where
  id : item.id = toString user.id
  registeredAt : item.registeredAt = user.registeredAt.map (· * 1000)
  known : tables.Knows ⟨[item], [], []⟩
  snapshot : ∀ store ids now, ids.AgreesOn tables ⟨[item], [], []⟩ → ∀ profile ∈ item.profile,
    ∃ converted, convertUserSnapshot store (some ids) user.id item profile now = .ok converted ∧
      ∃ row ∈ snapshot, converted.userId = user.id ∧ converted.recordedAt = row.recordedAt
  stats : ∀ now, ∀ part ∈ item.stats,
    ∃ converted, convertUserStats user.id item.fetchedAt part now = .ok converted ∧
      ∃ row ∈ stats, converted.userId = user.id ∧ converted.recordedAt = row.recordedAt

theorem lookupCategories_user {item : SubmitUser} (isId : isI64 item.id = true) :
    lookupCategories ⟨[item], [], []⟩ =
      validCategories (item.professional.elim [] SubmitUserProfessional.categories) := by
  simp [lookupCategories, validCategories, isId]

theorem lookupTexts_user {item : SubmitUser} (isId : isI64 item.id = true) :
    lookupTexts ⟨[item], [], []⟩ = (item.profile.bind SubmitUserProfile.bio).toList := by
  simp [lookupTexts, isId]

theorem isI64_toString {id : Int} (fits : Fits 64 id) : isI64 (toString id) = true := by
  rw [isI64, parseInt_toString fits]
  rfl

/-- A snapshot whose parts stand for a stored one is converted. -/
theorem converts_snapshot {tables : LookupTables} {row : Tweet.UserSnapshot} {item : SubmitUser}
    {profile : SubmitUserProfile} {ids : SubmitLookupIds} {userId : Int}
    (valid : row.content.Valid) (isId : isI64 item.id = true) (isProfile : item.profile = some profile)
    (stands : StandsForProfile tables row profile)
    (identity : Option.Rel (fun identity item => convertUserIdentity item = .ok identity)
      row.content.identity item.identity)
    (professional : Option.Rel (StandsForProfessional tables) row.content.professional
      item.professional)
    (pinned : item.pinnedTweetIds = row.content.pinnedTweetIds.map toString)
    (agree : ids.AgreesOn tables ⟨[item], [], []⟩) (store : LookupStore) (now : OffsetDateTime) :
    ∃ converted, convertUserSnapshot store (some ids) userId item profile now = .ok converted ∧
      converted.userId = userId ∧ converted.recordedAt = row.recordedAt := by
  obtain ⟨fetchedAt, bio⟩ := stands
  have texts := agree.texts
  rw [lookupTexts_user isId, isProfile] at texts
  have categories := agree.categories
  rw [lookupCategories_user isId] at categories
  have convertedBio : transpose (convertAnnotatedText store (some ids)) profile.bio =
      .ok row.content.bio :=
    transpose_of_rel bio fun text isText stored _ stands =>
      stands.converts store ids (texts text (Option.mem_toList.mpr isText))
  have convertedIdentity : transpose convertUserIdentity item.identity = .ok row.content.identity :=
    transpose_of_rel identity fun _ _ _ _ converts => converts
  have convertedProfessional : transpose (convertUserProfessional store (some ids))
      item.professional = .ok row.content.professional :=
    transpose_of_rel professional fun part isPart stored _ stands =>
      stands.converts store ids (by rwa [isPart] at categories)
  have time := postgresTimestamptz_microseconds row.recordedAt
  let converted : UserSnapshot :=
    { userId := userId
      recordedAt := row.recordedAt
      displayName := profile.displayName
      userName := profile.userName
      avatarUrl := profile.avatarUrl
      usesDefaultAvatar := profile.usesDefaultAvatar
      avatarShape := profile.avatarShape
      bannerUrl := profile.bannerUrl
      location := profile.location
      bio := row.content.bio
      profileLinks := profile.profileLinks.map convertResolvedUrl
      identity := row.content.identity
      features := item.features.map convertUserFeatures
      professional := row.content.professional
      pinnedTweetIds := row.content.pinnedTweetIds }
  refine ⟨converted, ?_, rfl, rfl⟩
  simp only [convertUserSnapshot, convertedBio, convertedIdentity, convertedProfessional, pinned,
    parseI64Ids_toString valid.pinnedTweetIds, fetchedAt, Option.some_or, Option.getD_some, time,
    converted, bind, Except.bind, pure, Except.pure]

section Whole

variable (lawful : context.formats.Lawful) (fitting : context.lookups.Fitting)

include lawful fitting

theorem reads_buildUserJson {user : TwitterUser} {snapshot : Option Tweet.UserSnapshot}
    {stats : Option (Version UserStatsColumns)} {written : Value}
    (built : context.buildUserJson user snapshot stats = .ok written) (fits : Fits 64 user.id)
    (registered : ∀ time ∈ user.registeredAt, readable time = true)
    (validSnapshot : ∀ row ∈ snapshot, row.content.Valid ∧ readable row.recordedAt = true)
    (validStats : ∀ row ∈ stats, row.content.Valid ∧ readable row.recordedAt = true) :
    ∃ item, decodeUser context.formats.parseTime written = some item ∧
      StandsForUser context.lookups user snapshot stats item := by
  obtain ⟨profile, profileBuilt, built⟩ := bind_eq_ok built
  obtain ⟨identity, identityBuilt, built⟩ := bind_eq_ok built
  obtain ⟨professional, professionalBuilt, built⟩ := bind_eq_ok built
  cases built
  have validIdentity : ∀ part ∈ snapshot.bind fun row => row.content.identity, part.Valid := by
    intro part isPart
    obtain ⟨row, isRow, isIdentity⟩ := Option.bind_eq_some_iff.mp isPart
    exact (validSnapshot row isRow).1.identity part isIdentity
  have validProfessional : ∀ part ∈ snapshot.bind fun row => row.content.professional,
      FitsId part.professionalId := by
    intro part isPart
    obtain ⟨row, isRow, isProfessional⟩ := Option.bind_eq_some_iff.mp isPart
    exact (validSnapshot row isRow).1.professional part isProfessional
  obtain ⟨profileItem, readProfile, isProfile⟩ :=
    reads_buildOption rfl (reads_buildUserProfileJson lawful) profileBuilt validSnapshot
  obtain ⟨identityItem, readIdentity, isIdentity⟩ :=
    reads_buildOption rfl reads_buildUserIdentityJson identityBuilt validIdentity
  obtain ⟨professionalItem, readProfessional, isProfessional⟩ :=
    reads_buildOption rfl (reads_buildUserProfessionalJson fitting) professionalBuilt
      validProfessional
  have readStats := nullable_buildUserStatsJson lawful fun row isRow => (validStats row isRow).2
  have readRegistered := nullable_nullOr_timeJson lawful registered
  let item : SubmitUser := ⟨toString user.id, none, user.registeredAt.map (· * 1000), profileItem,
    (snapshot.elim [] fun row => row.content.pinnedTweetIds).map toString, identityItem,
    professionalItem, stats.map submitUserStats,
    (snapshot.bind fun row => row.content.features).map submitUserFeatures⟩
  have isId : isI64 item.id = true := isI64_toString fits
  refine ⟨item, ?_, rfl, rfl, ⟨?_, ?_⟩, fun store ids now agree profile isPart => ?_,
    fun now part isPart => ?_⟩
  · -- Each field is found by its name; the ones left out are read as absent.
    simp only [decodeUser, record_object, timeField, required, Json.optional, optionalAlias, listed,
      defaulted, List.lookup_cons, List.lookup_nil, String.reduceBEq, Option.bind_some,
      Option.getD_some,
      Option.getD_none, nullable_null, text_idJson, items_text_list_idJson, readRegistered,
      readProfile, readIdentity, readProfessional, readStats, nullable_buildUserFeaturesJson]
    rfl
  · -- The categories of the professional are stored.
    rw [lookupCategories_user isId]
    intro category member
    cases given : professionalItem with
    | none => simp [item, given, validCategories] at member
    | some part =>
      obtain ⟨_, _, stands⟩ := exists_of_rel isProfessional given
      exact stands.known category (by simpa [item, given] using member)
  · rw [lookupTexts_user isId]
    intro text member
    obtain ⟨profile, isProfileItem, isText⟩ :=
      Option.bind_eq_some_iff.mp (Option.mem_toList.mp member)
    obtain ⟨_, _, stands⟩ := exists_of_rel isProfile isProfileItem
    obtain ⟨_, _, standsForText⟩ := exists_of_rel stands.bio isText
    exact standsForText.known
  · obtain ⟨row, isRow, stands⟩ := exists_of_rel isProfile isPart
    subst isRow
    obtain ⟨converted, ran, isUser, isTime⟩ := converts_snapshot (validSnapshot row rfl).1 isId
      isPart stands isIdentity isProfessional rfl agree store now
    exact ⟨converted, ran, row, rfl, isUser, isTime⟩
  · obtain ⟨row, isRow, rfl⟩ := Option.map_eq_some_iff.mp isPart
    exact ⟨_, convertUserStats_of_valid (validStats row isRow).1 .., row, isRow, rfl, rfl⟩

end Whole

theorem parseI64Id_of_isId {id : Int} {text field : String} (fits : Fits 64 id)
    (isId : text = toString id) : parseI64Id text field = .ok id := by
  rw [isId, parseI64Id_toString fits]

/-- What the one user of a request is prepared to. -/
theorem prepareUser_of_stands {tables : LookupTables} {user : TwitterUser}
    {snapshot : Option Tweet.UserSnapshot} {stats : Option (Version UserStatsColumns)}
    {item : SubmitUser} {prepareContext : PrepareContext} {ids : SubmitLookupIds}
    (fits : Fits 64 user.id) (stands : StandsForUser tables user snapshot stats item)
    (shared : prepareContext.lookupIds = some ids)
    (agree : ids.AgreesOn tables ⟨[item], [], []⟩) (now : OffsetDateTime) :
    let prepared := prepareUser prepareContext now
      (lastValidIndex "user.id" SubmitUser.id [item]) 0 item
    prepared.result = .new item.id ∧ prepared.user = some user ∧
      (∀ converted ∈ prepared.snapshot, ∃ row ∈ snapshot,
        converted.userId = user.id ∧ converted.recordedAt = row.recordedAt) ∧
      ∀ converted ∈ prepared.stats, ∃ row ∈ stats,
        converted.userId = user.id ∧ converted.recordedAt = row.recordedAt := by
  have isParsed : ∀ field, parseI64Id item.id field = .ok user.id :=
    fun _ => parseI64Id_of_isId fits stands.id
  have isLast : lastValidIndex "user.id" SubmitUser.id [item] user.id = some 0 :=
    lastValidIndex_single (isParsed "user.id")
  obtain ⟨noSnapshotError, snapshots⟩ := @part_of_converts _
    (item.profile.map fun profile => convertUserSnapshot prepareContext.store
      prepareContext.lookupIds user.id item profile now)
    (fun converted => ∃ row ∈ snapshot,
      converted.userId = user.id ∧ converted.recordedAt = row.recordedAt) fun result isResult => by
    obtain ⟨profile, isProfile, rfl⟩ := Option.map_eq_some_iff.mp isResult
    rw [shared]
    exact stands.snapshot _ ids now agree profile isProfile
  obtain ⟨noStatsError, statistics⟩ := @part_of_converts _
    (item.stats.map fun part => convertUserStats user.id item.fetchedAt part now)
    (fun converted => ∃ row ∈ stats,
      converted.userId = user.id ∧ converted.recordedAt = row.recordedAt) fun result isResult => by
    obtain ⟨part, isPart, rfl⟩ := Option.map_eq_some_iff.mp isResult
    exact stands.stats now part isPart
  have registered : item.registeredAt.map roundedTimestamptz = user.registeredAt := by
    rw [stands.registeredAt]
    cases user.registeredAt with
    | none => rfl
    | some time => exact congrArg some (roundedTimestamptz_microseconds time)
  simp only [prepareUser, isParsed, isLast, ne_eq, not_true_eq_false, if_false, noSnapshotError,
    noStatsError, registered]
  exact ⟨trivial, trivial, snapshots, statistics⟩

/-- A found user can be sent again. -/
theorem user_repeats {db : Database} {id : Int} {data : Value} (lawful : context.formats.Lawful)
    (fitting : context.lookups.Fitting) (valid : db.Valid)
    (found : context.queryUser db id = .found data) :
    ∃ item, decodeUser context.formats.parseTime data = some item ∧
      RequestRepeats context.lookups context.formats.parseUuid [] db ⟨[item], [], []⟩ := by
  unfold queryUser at found
  split at found
  next => cases found
  next user isStored =>
    obtain ⟨decodedUser, isUser, built⟩ := bind_eq_ok (answer_eq_found found)
    obtain ⟨snapshot, isSnapshot, built⟩ := bind_eq_ok built
    obtain ⟨stats, areStats, built⟩ := bind_eq_ok built
    obtain ⟨rfl, registered⟩ := decodeRow_eq_ok isUser
    have member := Table.mem_of_find isStored
    have isId : decodedUser.id = id := Table.find_key isStored
    have latestSnapshot := decodeLatest_eq_ok isSnapshot
    have latestStats := decodeLatest_eq_ok areStats
    have fits := valid.users decodedUser member
    obtain ⟨item, read, stands⟩ := reads_buildUserJson lawful fitting built fits
      (by simpa using registered)
      (fun row isRow => ⟨valid.userSnapshots row (latestSnapshot row isRow).1,
        (latestSnapshot row isRow).2.2⟩)
      (fun row isRow => ⟨valid.userStats row (latestStats row isRow).1,
        (latestStats row isRow).2.2⟩)
    refine ⟨item, read, stands.known, fun newIds clocks => ?_⟩
    obtain ⟨ids, resolved, agree⟩ := resolveSubmitLookupIds_of_known newIds fitting stands.known
    let prepareContext : PrepareContext :=
      ⟨context.lookups.store newIds, some ids, context.formats.parseUuid⟩
    let prepared := prepareUser prepareContext (clocks.user 0)
      (lastValidIndex "user.id" SubmitUser.id [item]) 0 item
    have batch : prepareSubmitBatch (context.lookups.store newIds) context.formats.parseUuid clocks
        ⟨[item], [], []⟩ = collectBatch [prepared] [] [] := by
      rw [prepareSubmitBatch, resolved]
      rfl
    obtain ⟨isResult, isPrepared, snapshots, statistics⟩ :=
      @prepareUser_of_stands _ _ _ _ _ prepareContext _ fits stands rfl agree (clocks.user 0)
    rw [batch]
    refine ⟨?_, ?_, rfl⟩
    · intro result member
      have isNew : result = .new item.id := by simpa [collectBatch, prepared, isResult] using member
      rw [isNew]
      exact ⟨rfl, rfl⟩
    · -- the user has nothing left to fill, and its two versions are stored already
      constructor
      case users =>
        intro entry inBatch
        have same := mem_collect_single inBatch
        rw [isPrepared, Option.some.injEq] at same
        rw [← same]
        refine ⟨decodedUser, Table.find_of_mem member, ?_⟩
        cases time : decodedUser.registeredAt <;> simp [TwitterUser.onConflict, Tweet.fillable, time]
      case userSnapshots =>
        intro entry inBatch
        obtain ⟨row, isRow, sameUser, sameTime⟩ := snapshots _ (mem_collect_single inBatch)
        obtain ⟨isStoredRow, isSubject, _⟩ := latestSnapshot row isRow
        exact ⟨row, isStoredRow, Version.clash_iff.mpr
          ⟨isSubject.trans (isId.symm.trans sameUser.symm), sameTime.symm⟩⟩
      case userStats =>
        intro entry inBatch
        obtain ⟨row, isRow, sameUser, sameTime⟩ := statistics _ (mem_collect_single inBatch)
        obtain ⟨isStoredRow, isSubject, _⟩ := latestStats row isRow
        exact ⟨row, isStoredRow, Version.clash_iff.mpr
          ⟨isSubject.trans (isId.symm.trans sameUser.symm), sameTime.symm⟩⟩
      all_goals exact fun _ nothing => absurd nothing List.not_mem_nil

end BuildContext

end TweetDb.Query
