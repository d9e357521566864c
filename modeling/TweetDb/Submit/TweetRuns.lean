import TweetDb.Submit.MediaRuns

/-! # The tweet stages of two batches

A tweet's rows look for the tweet, its author and its place; for the other
tweets these are the same in both runs, as far as the statements before ended
alike.
-/

namespace TweetDb.Submit

open Relational ObjectResult TweetModel
open TweetDb.Search (FreshIds)
open TweetDb.Tweet (TweetCommunityNote TweetEdit TweetPlace TweetPolicy TweetRow TweetStats
  TweetStatsColumns TweetTables UserStatsColumns UserTables Version)

/-! ## The tweet stages -/

structure TweetsEndAlike (others : Others) (prepared : PreparedSubmitBatch)
    (outcomes outcomes' : Outcomes) : Prop where
  tweetPlaces : Carries others.tweetItem prepared.tweetPlaces →
    failure outcomes.tweetPlaces = failure outcomes'.tweetPlaces
  tweets : Carries others.tweetItem prepared.tweets →
    failure outcomes.tweets = failure outcomes'.tweets
  tweetEdits : Carries others.tweetItem prepared.tweetEdits →
    failure outcomes.tweetEdits = failure outcomes'.tweetEdits
  tweetPolicies : Carries others.tweetItem prepared.tweetPolicies →
    failure outcomes.tweetPolicies = failure outcomes'.tweetPolicies
  tweetCommunityNotes : Carries others.tweetItem prepared.tweetCommunityNotes →
    failure outcomes.tweetCommunityNotes = failure outcomes'.tweetCommunityNotes
  tweetStats : Carries others.tweetItem prepared.tweetStats →
    failure outcomes.tweetStats = failure outcomes'.tweetStats
  relations : Carries others.tweetItem prepared.tweetRelations →
    failure outcomes.relations = failure outcomes'.relations

structure TweetPhasesAlike (others : Others) (phase phase' : TweetPhase) : Prop where
  places : AgreeOn (fun place : TweetPlace => others.place place.id) phase.places.rows
    phase'.places.rows
  tables : TweetsAgree others.toScope phase.tables phase'.tables
  edits : AgreeOn (fun edit : TweetEdit => others.tweet edit.tweetId) phase.edits.rows
    phase'.edits.rows
  policies : AgreeOn (fun policy : TweetPolicy => others.tweet policy.tweetId) phase.policies.rows
    phase'.policies.rows
  notes : AgreeOn (fun note : TweetCommunityNote => others.tweet note.tweetId) phase.notes.rows
    phase'.notes.rows
  stats : AgreeOn (fun row : Version TweetStatsColumns => others.tweet row.subjectId)
    phase.stats.rows phase'.stats.rows
  refs : RefsAgree others.toScope phase.refs phase'.refs
  results : ∀ index, others.tweetItem index = true → phase.results[index]? = phase'.results[index]?

theorem hasTweet_congr {scope : Scope} {tables tables' : TweetTables}
    (agree : TweetsAgree scope tables tables') {tweetId : Int} (inside : scope.tweet tweetId) :
    hasTweet tables tweetId = hasTweet tables' tweetId := by
  unfold hasTweet
  rw [find_congr agree.tweets inside]

theorem extended_tweetPlaces (env : Environment) (items : List (Indexed TweetPlace))
    (table : Table TweetPlace) (results : List ObjectResult) :
    Extended results (writeTweetPlacesBatch env items table results).2 :=
  extended_writeBatch (tells_changed (by decide))

theorem extended_tweets (env : Environment) (items : List (Indexed TweetRow))
    (hasUser : Int → Bool) (hasPlace : String → Bool) (tables : TweetTables)
    (results : List ObjectResult) :
    Extended results (writeTweetsBatch env items hasUser hasPlace tables results).2 :=
  extended_writeBatch (tells_changed (by decide))

theorem extended_children {α σ : Type} {name : String} (tweetId : α → Int)
    (items : List (Indexed α)) (statement : Except String (List (Int × ConditionalWrite) × σ))
    (state : σ) (results : List ObjectResult) (named : name ≠ "dict_preload") :
    Extended results (writeChildrenBatch name tweetId items statement state results).2 :=
  extended_writeBatch (tells_conditionalWrite named)

theorem extended_tweetStats (env : Environment) (items : List (Indexed TweetStats))
    (hasTweet : Int → Bool) (table : Table (Version TweetStatsColumns))
    (results : List ObjectResult) :
    Extended results (writeTweetStatsBatch env items hasTweet table results).2 :=
  extended_writeBatch (tells_conditionalWrite (by decide))

theorem extended_relations (env : Environment) (items : List (Indexed TweetRelations))
    (hasTweet hasMedia : Int → Bool) (tables : RefTables) (results : List ObjectResult) :
    Extended results (replacePreparedTweetRelations env items hasTweet hasMedia tables results).2 :=
  extended_writeBatch tells_relations

section Tweets

variable (env : Environment) {others : Others} {prepared prepared' : PreparedSubmitBatch}
  (alike : BatchesAlike others prepared prepared')
  (keyed : prepared.Keyed others.toScope) (keyed' : prepared'.Keyed others.toScope)
  {results results' : List ObjectResult}
  (before : ∀ index, others.tweetItem index = true → results[index]? = results'[index]?)
  (extended : Extended prepared.tweetResults results)

include alike keyed before extended

theorem tweetPlaces_runs {table table' : Table TweetPlace}
    (agree : AgreeOn (fun place : TweetPlace => others.place place.id) table.rows table'.rows) :
    StageRuns others.tweetItem (fun _ => True)
      (fun table table' => AgreeOn (fun place : TweetPlace => others.place place.id) table.rows
        table'.rows)
      (Carries others.tweetItem prepared.tweetPlaces)
      (failure (env.upsertTweetPlacesChanged
        ((dedupePlaces prepared.tweetPlaces).map DedupedPlace.value) table))
      (failure (env.upsertTweetPlacesChanged
        ((dedupePlaces prepared'.tweetPlaces).map DedupedPlace.value) table'))
      (writeTweetPlacesBatch env prepared.tweetPlaces table results)
      (writeTweetPlacesBatch env prepared'.tweetPlaces table' results') := by
  have distinct : ∀ places : List (Indexed TweetPlace),
      DistinctBy TweetPlace.id ((dedupePlaces places).map DedupedPlace.value) :=
    fun places => DistinctBy.map (DistinctBy.of_nodup (nodup_dedupePlaces places))
  constructor
  · intro ends
    exact writeBatch_alike (independent_places env others.toScope)
      (entriesAlike_places alike.tweetPlaces)
      (fun _ _ _ same => congrArg (recordChanged "tweet_place") same) (env.refusals.tweetPlaces _)
      (env.refusals.tweetPlaces _) () () rfl (distinct _) (distinct _) trivial trivial agree before
      fun carries => ends (carriesRow_dedupePlaces alike.tweetPlaces carries)
  · intro atEnd ⟨item, member, isOther⟩
    obtain ⟨entry, isEntry, named⟩ := exists_placeIndices member
    refine failure_eq_of_ends (entriesAlike_places alike.tweetPlaces) (tells_changed (by decide))
      before ?_ atEnd ⟨entry, isEntry, item.index, named, isOther⟩
    intro entry isEntry index named
    rw [indices_of_mem_dedupePlaces _ isEntry] at named
    exact exists_getElem?_of_extended extended
      (keyed.tweetPlace (.inr (.inl (mem_indicesOf named))))

include keyed'

theorem tweets_runs (hasUser hasUser' : Int → Bool) (hasPlace hasPlace' : String → Bool)
    {tables tables' : TweetTables} (fresh : FreshIds env.newId tables.indexQueue)
    (fresh' : FreshIds env.newId tables'.indexQueue)
    (agree : TweetsAgree others.toScope tables tables') :
    StageRuns others.tweetItem (fun tables => FreshIds env.newId tables.indexQueue)
      (TweetsAgree others.toScope) (Carries others.tweetItem prepared.tweets)
      (failure
        (env.insertTweetsChanged hasUser hasPlace (prepared.tweets.map Indexed.value) tables))
      (failure
        (env.insertTweetsChanged hasUser' hasPlace' (prepared'.tweets.map Indexed.value) tables'))
      (writeTweetsBatch env prepared.tweets hasUser hasPlace tables results)
      (writeTweetsBatch env prepared'.tweets hasUser' hasPlace' tables' results') :=
  stageRuns_items (independent_tweets env others.toScope) (tells_changed (by decide))
    (fun _ _ _ same => congrArg (recordChanged "tweet") same) (env.refusals.tweets _)
    (env.refusals.tweets _) (hasUser, hasPlace) (hasUser', hasPlace') alike.tweets trivial
    keyed.tweets keyed'.tweets fresh fresh' agree before fun item member =>
      exists_getElem?_of_extended extended
        (keyed.tweetPlace (.inr (.inr (.inl (List.mem_map_of_mem member)))))

variable {tables tables' : TweetTables} (stored : TweetsAgree others.toScope tables tables')

include stored

theorem edits_runs {table table' : Table TweetEdit}
    (agree : AgreeOn (fun edit : TweetEdit => others.tweet edit.tweetId) table.rows table'.rows) :
    StageRuns others.tweetItem (fun _ => True)
      (fun table table' => AgreeOn (fun edit : TweetEdit => others.tweet edit.tweetId) table.rows
        table'.rows)
      (Carries others.tweetItem prepared.tweetEdits)
      (failure (env.upsertTweetEditsWriteStatuses (hasTweet tables)
        (prepared.tweetEdits.map Indexed.value) table))
      (failure (env.upsertTweetEditsWriteStatuses (hasTweet tables')
        (prepared'.tweetEdits.map Indexed.value) table'))
      (writeTweetEditsBatch env prepared.tweetEdits (hasTweet tables) table results)
      (writeTweetEditsBatch env prepared'.tweetEdits (hasTweet tables') table' results') :=
  stageRuns_items (independent_edits env others.toScope) (tells_conditionalWrite (by decide))
    (fun _ _ _ same => congrArg (recordConditionalWrite "tweet_edit") same)
    (env.refusals.tweetEdits _) (env.refusals.tweetEdits _) (hasTweet tables) (hasTweet tables')
    alike.tweetEdits (fun _ inside => hasTweet_congr stored inside) keyed.tweetEdits
    keyed'.tweetEdits trivial trivial agree before fun item member =>
      exists_getElem?_of_extended extended
        (keyed.tweetPlace (.inr (.inr (.inr (.inl (List.mem_map_of_mem member))))))

theorem policies_runs {table table' : Table TweetPolicy}
    (agree : AgreeOn (fun policy : TweetPolicy => others.tweet policy.tweetId) table.rows
      table'.rows) :
    StageRuns others.tweetItem (fun _ => True)
      (fun table table' => AgreeOn (fun policy : TweetPolicy => others.tweet policy.tweetId)
        table.rows table'.rows)
      (Carries others.tweetItem prepared.tweetPolicies)
      (failure (env.upsertTweetPoliciesWriteStatuses (hasTweet tables)
        (prepared.tweetPolicies.map Indexed.value) table))
      (failure (env.upsertTweetPoliciesWriteStatuses (hasTweet tables')
        (prepared'.tweetPolicies.map Indexed.value) table'))
      (writeTweetPoliciesBatch env prepared.tweetPolicies (hasTweet tables) table results)
      (writeTweetPoliciesBatch env prepared'.tweetPolicies (hasTweet tables') table' results') :=
  stageRuns_items (independent_policies env others.toScope) (tells_conditionalWrite (by decide))
    (fun _ _ _ same => congrArg (recordConditionalWrite "tweet_policy") same)
    (env.refusals.tweetPolicies _) (env.refusals.tweetPolicies _) (hasTweet tables)
    (hasTweet tables') alike.tweetPolicies (fun _ inside => hasTweet_congr stored inside)
    keyed.tweetPolicies keyed'.tweetPolicies trivial trivial agree before fun item member =>
      exists_getElem?_of_extended extended
        (keyed.tweetPlace (.inr (.inr (.inr (.inr (.inl (List.mem_map_of_mem member)))))))

theorem notes_runs {table table' : Table TweetCommunityNote}
    (agree : AgreeOn (fun note : TweetCommunityNote => others.tweet note.tweetId) table.rows
      table'.rows) :
    StageRuns others.tweetItem (fun _ => True)
      (fun table table' => AgreeOn (fun note : TweetCommunityNote => others.tweet note.tweetId)
        table.rows table'.rows)
      (Carries others.tweetItem prepared.tweetCommunityNotes)
      (failure (env.upsertTweetCommunityNotesWriteStatuses (hasTweet tables)
        (prepared.tweetCommunityNotes.map Indexed.value) table))
      (failure (env.upsertTweetCommunityNotesWriteStatuses (hasTweet tables')
        (prepared'.tweetCommunityNotes.map Indexed.value) table'))
      (writeTweetCommunityNotesBatch env prepared.tweetCommunityNotes (hasTweet tables) table
        results)
      (writeTweetCommunityNotesBatch env prepared'.tweetCommunityNotes (hasTweet tables') table'
        results') :=
  stageRuns_items (independent_notes env others.toScope) (tells_conditionalWrite (by decide))
    (fun _ _ _ same => congrArg (recordConditionalWrite "tweet_community_note") same)
    (env.refusals.tweetCommunityNotes _) (env.refusals.tweetCommunityNotes _) (hasTweet tables)
    (hasTweet tables') alike.tweetCommunityNotes (fun _ inside => hasTweet_congr stored inside)
    keyed.tweetCommunityNotes keyed'.tweetCommunityNotes trivial trivial agree before
    fun item member => exists_getElem?_of_extended extended
      (keyed.tweetPlace (.inr (.inr (.inr (.inr (.inr (.inl (List.mem_map_of_mem member))))))))

theorem tweetStats_runs {table table' : Table (Version TweetStatsColumns)}
    (agree : AgreeOn (fun row : Version TweetStatsColumns => others.tweet row.subjectId) table.rows
      table'.rows) :
    StageRuns others.tweetItem (fun _ => True)
      (fun table table' =>
        AgreeOn (fun row : Version TweetStatsColumns => others.tweet row.subjectId) table.rows
          table'.rows)
      (Carries others.tweetItem prepared.tweetStats)
      (failure (env.appendTweetStatsIfChangedMany (hasTweet tables)
        (prepared.tweetStats.map Indexed.value) table))
      (failure (env.appendTweetStatsIfChangedMany (hasTweet tables')
        (prepared'.tweetStats.map Indexed.value) table'))
      (writeTweetStatsBatch env prepared.tweetStats (hasTweet tables) table results)
      (writeTweetStatsBatch env prepared'.tweetStats (hasTweet tables') table' results') :=
  stageRuns_items (independent_stats env others.tweet TweetStats.toVersion fun _ => rfl)
    (tells_conditionalWrite (by decide))
    (fun _ _ _ same => congrArg (recordConditionalWrite "tweet_stats") same)
    (env.refusals.tweetStats _) (env.refusals.tweetStats _) (hasTweet tables) (hasTweet tables')
    alike.tweetStats (fun _ inside => hasTweet_congr stored inside)
    (distinctBy_pair keyed.tweetStats) (distinctBy_pair keyed'.tweetStats) trivial trivial agree
    before fun item member => exists_getElem?_of_extended extended
      (keyed.tweetPlace
        (.inr (.inr (.inr (.inr (.inr (.inr (.inl (List.mem_map_of_mem member)))))))))

theorem relations_runs {hasMedia hasMedia' : Int → Bool} {refs refs' : RefTables}
    (sameMedia : ∀ mediaId, others.media mediaId → hasMedia mediaId = hasMedia' mediaId)
    (agree : RefsAgree others.toScope refs refs') :
    StageRuns others.tweetItem (fun _ => True) (RefsAgree others.toScope)
      (Carries others.tweetItem prepared.tweetRelations)
      (failure (env.syncTweetRelations (hasTweet tables) hasMedia
        (prepared.tweetRelations.map Indexed.value) refs))
      (failure (env.syncTweetRelations (hasTweet tables') hasMedia'
        (prepared'.tweetRelations.map Indexed.value) refs'))
      (replacePreparedTweetRelations env prepared.tweetRelations (hasTweet tables) hasMedia refs
        results)
      (replacePreparedTweetRelations env prepared'.tweetRelations (hasTweet tables') hasMedia' refs'
        results') := by
  have recorded : ∀ (answers answers' : List (Int × RelationSyncStatuses))
      (item : Indexed TweetRelations),
      answers.lookup item.value.tweetId = answers'.lookup item.value.tweetId →
      recordRelations answers item = recordRelations answers' item := by
    intro answers answers' item same
    unfold recordRelations
    rw [same]
  exact stageRuns_items (independent_relations env others.toScope) tells_relations recorded
    (env.refusals.relations _) (env.refusals.relations _) (hasTweet tables, hasMedia)
    (hasTweet tables', hasMedia') alike.tweetRelations
    ⟨fun _ inside => hasTweet_congr stored inside, sameMedia⟩ keyed.tweetRelations
    keyed'.tweetRelations trivial trivial agree before fun item member =>
      exists_getElem?_of_extended extended
        (keyed.tweetPlace
          (.inr (.inr (.inr (.inr (.inr (.inr (.inr (List.mem_map_of_mem member)))))))))

end Tweets

section Execute

variable {env : Environment} {others : Others} {prepared prepared' : PreparedSubmitBatch}
  {db : Database}

/-- What the tweet stages start with. -/
def Database.tweetStart (db : Database) (users : UserPhase) : TweetPhase where
  places := db.tweetPlaces
  tables := ⟨db.tweets, users.tables.indexQueue⟩
  edits := db.tweetEdits
  policies := db.tweetPolicies
  notes := db.tweetCommunityNotes
  stats := db.tweetStats
  refs := db.refs
  results := users.tweetResults

theorem extended_executeUsers (env : Environment) (prepared : PreparedSubmitBatch)
    (tables : UserTables) (userStats : Table (Version UserStatsColumns)) :
    Extended prepared.tweetResults (executeUsers env prepared tables userStats).tweetResults :=
  (extended_combined env prepared tables).2

variable (alike : BatchesAlike others prepared prepared')
  (keyed : prepared.Keyed others.toScope) (keyed' : prepared'.Keyed others.toScope)

include alike keyed keyed'

theorem executeTweets_runs
    (users : UserPhasesAlike env others (executeUsers env prepared db.userTables db.userStats)
      (executeUsers env prepared' db.userTables db.userStats))
    (media : MediaPhasesAlike others (executeMedia env prepared db.mediaTables db.transferTasks)
      (executeMedia env prepared' db.mediaTables db.transferTasks)) :
    let users := executeUsers env prepared db.userTables db.userStats
    let users' := executeUsers env prepared' db.userTables db.userStats
    let media := executeMedia env prepared db.mediaTables db.transferTasks
    let media' := executeMedia env prepared' db.mediaTables db.transferTasks
    let tweets := executeTweets env prepared users.tables.hasUser media.tables.hasMedia
      (db.tweetStart users)
    let tweets' := executeTweets env prepared' users'.tables.hasUser media'.tables.hasMedia
      (db.tweetStart users')
    (TweetsEndAlike others prepared (outcomesOf prepared env db) (outcomesOf prepared' env db) ∨
      EndSame others.tweetItem tweets.results tweets'.results) →
    TweetsEndAlike others prepared (outcomesOf prepared env db) (outcomesOf prepared' env db) ∧
      TweetPhasesAlike others tweets tweets' := by
  intro userPhase userPhase' _ _ _ _ known
  let places := writeTweetPlacesBatch env prepared.tweetPlaces db.tweetPlaces userPhase.tweetResults
  let tables := writeTweetsBatch env prepared.tweets userPhase.tables.hasUser (hasPlace places.1)
    (db.tweetStart userPhase).tables places.2
  let edits := writeTweetEditsBatch env prepared.tweetEdits (hasTweet tables.1) db.tweetEdits
    tables.2
  let policies := writeTweetPoliciesBatch env prepared.tweetPolicies (hasTweet tables.1)
    db.tweetPolicies edits.2
  let notes := writeTweetCommunityNotesBatch env prepared.tweetCommunityNotes (hasTweet tables.1)
    db.tweetCommunityNotes policies.2
  let stats := writeTweetStatsBatch env prepared.tweetStats (hasTweet tables.1) db.tweetStats
    notes.2
  have afterPlaces : Extended prepared.tweetResults places.2 :=
    (extended_executeUsers env prepared db.userTables db.userStats).trans
      (extended_tweetPlaces _ _ _ _)
  have afterTables : Extended prepared.tweetResults tables.2 :=
    afterPlaces.trans (extended_tweets _ _ _ _ _ _)
  have afterEdits : Extended prepared.tweetResults edits.2 :=
    afterTables.trans (extended_children _ _ _ _ _ (by decide))
  have afterPolicies : Extended prepared.tweetResults policies.2 :=
    afterEdits.trans (extended_children _ _ _ _ _ (by decide))
  have afterNotes : Extended prepared.tweetResults notes.2 :=
    afterPolicies.trans (extended_children _ _ _ _ _ (by decide))
  have afterStats : Extended prepared.tweetResults stats.2 :=
    afterNotes.trans (extended_tweetStats _ _ _ _ _)
  -- Results that become the same were so after each stage, seen from the last one back.
  have knownStats := known.imp_right fun atEnd =>
    atEnd.before (extended_relations _ _ _ _ _ _) (extended_relations _ _ _ _ _ _)
  have knownNotes := knownStats.imp_right fun atEnd =>
    atEnd.before (extended_tweetStats _ _ _ _ _) (extended_tweetStats _ _ _ _ _)
  have knownPolicies := knownNotes.imp_right fun atEnd =>
    atEnd.before (extended_children _ _ _ _ _ (by decide)) (extended_children _ _ _ _ _ (by decide))
  have knownEdits := knownPolicies.imp_right fun atEnd =>
    atEnd.before (extended_children _ _ _ _ _ (by decide)) (extended_children _ _ _ _ _ (by decide))
  have knownTweets := knownEdits.imp_right fun atEnd =>
    atEnd.before (extended_children _ _ _ _ _ (by decide)) (extended_children _ _ _ _ _ (by decide))
  have knownPlaces := knownTweets.imp_right fun atEnd =>
    atEnd.before (extended_tweets _ _ _ _ _ _) (extended_tweets _ _ _ _ _ _)
  have runPlaces := tweetPlaces_runs env alike keyed users.tweetResults
    (extended_executeUsers env prepared db.userTables db.userStats) (.refl _ db.tweetPlaces.rows)
  have endsPlaces := knownPlaces.elim (fun ends => ends_of_map ends.tweetPlaces) runPlaces.told
  have alikePlaces := runPlaces.alike endsPlaces
  have startTables : TweetsAgree others.toScope (db.tweetStart userPhase).tables
      (db.tweetStart userPhase').tables := ⟨.refl _ db.tweets.rows, users.tables.queue⟩
  have runTweets := tweets_runs env alike keyed keyed' alikePlaces.results afterPlaces
    userPhase.tables.hasUser userPhase'.tables.hasUser
    (hasPlace (writeTweetPlacesBatch env prepared.tweetPlaces db.tweetPlaces
      userPhase.tweetResults).1)
    (hasPlace (writeTweetPlacesBatch env prepared'.tweetPlaces db.tweetPlaces
      userPhase'.tweetResults).1) users.fresh users.fresh' startTables
  have endsTweets := knownTweets.elim (fun ends => ends_of_map ends.tweets) runTweets.told
  have alikeTweets := runTweets.alike endsTweets
  have runEdits := edits_runs env alike keyed keyed' alikeTweets.results afterTables
    alikeTweets.states (.refl _ db.tweetEdits.rows)
  have endsEdits := knownEdits.elim (fun ends => ends_of_map ends.tweetEdits) runEdits.told
  have alikeEdits := runEdits.alike endsEdits
  have runPolicies := policies_runs env alike keyed keyed' alikeEdits.results afterEdits
    alikeTweets.states (.refl _ db.tweetPolicies.rows)
  have endsPolicies := knownPolicies.elim (fun ends => ends_of_map ends.tweetPolicies)
    runPolicies.told
  have alikePolicies := runPolicies.alike endsPolicies
  have runNotes := notes_runs env alike keyed keyed' alikePolicies.results afterPolicies
    alikeTweets.states (.refl _ db.tweetCommunityNotes.rows)
  have endsNotes := knownNotes.elim (fun ends => ends_of_map ends.tweetCommunityNotes) runNotes.told
  have alikeNotes := runNotes.alike endsNotes
  have runStats := tweetStats_runs env alike keyed keyed' alikeNotes.results afterNotes
    alikeTweets.states (.refl _ db.tweetStats.rows)
  have endsStats := knownStats.elim (fun ends => ends_of_map ends.tweetStats) runStats.told
  have alikeStats := runStats.alike endsStats
  have runRelations := relations_runs env alike keyed keyed' alikeStats.results afterStats
    alikeTweets.states (fun _ inside => hasMedia_congr media.tables inside)
    ((equivalence_refsAgree _).refl db.refs)
  have endsRelations := known.elim (fun ends => ends_of_map ends.relations) runRelations.told
  have alikeRelations := runRelations.alike endsRelations
  constructor
  · exact ⟨ends_map endsPlaces, ends_map endsTweets, ends_map endsEdits, ends_map endsPolicies,
      ends_map endsNotes, ends_map endsStats, ends_map endsRelations⟩
  · exact ⟨alikePlaces.states, alikeTweets.states, alikeEdits.states, alikePolicies.states,
      alikeNotes.states, alikeStats.states, alikeRelations.states, alikeRelations.results⟩

end Execute

end TweetDb.Submit
