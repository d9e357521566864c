import TweetDb.Submit.Prepare

/-! # The loops of `prepare_submit_batch`

The three loops as they run: each turn pushes to the lists of the batch and may
end early.  What they leave is the batch collected from the items one by one.
-/

namespace TweetDb.Submit

open TweetDb.Tweet (TweetPlace TwitterUser)

namespace PreparedSubmitBatch

def new : PreparedSubmitBatch :=
  ⟨[], [], [], [], [], [], [], [], [], [], [], [], [], [], [], []⟩

end PreparedSubmitBatch

/-! ## Turns -/

def push {α : Type} (items : List (Indexed α)) (index : Nat) (value : α) : List (Indexed α) :=
  items ++ [⟨index, value⟩]

def pushOption {α : Type} (items : List (Indexed α)) (index : Nat) (value : Option α) :
    List (Indexed α) :=
  match value with
  | some value => push items index value
  | none => items

section Turns

variable (context : PrepareContext) (now : OffsetDateTime) (lastIndex : Int → Option Nat)

/-- A turn of the loop over the users. -/
def pushUser (prepared : PreparedSubmitBatch) (user : SubmitUser) (index : Nat) :
    PreparedSubmitBatch :=
  let result := ObjectResult.new user.id
  match parseI64Id user.id "user.id" with
  | .error error => { prepared with userResults := prepared.userResults ++ [result.fatal error] }
  | .ok userId =>
    if lastIndex userId ≠ some index then
      { prepared with userResults := prepared.userResults ++ [shadowed result] }
    else
      let prepared := { prepared with
        users := push prepared.users index ⟨userId, user.registeredAt.map roundedTimestamptz⟩ }
      let (prepared, result) :=
        match user.profile with
        | none => (prepared, result)
        | some profile =>
          match convertUserSnapshot context.store context.lookupIds userId user profile now with
          | .ok snapshot =>
            ({ prepared with userSnapshots := push prepared.userSnapshots index snapshot },
              result)
          | .error error => (prepared, result.operation "user_snapshot" .failed error)
      let (prepared, result) :=
        match user.stats with
        | none => (prepared, result)
        | some stats =>
          match convertUserStats userId user.fetchedAt stats now with
          | .ok stats =>
            ({ prepared with userStats := push prepared.userStats index stats }, result)
          | .error error => (prepared, result.operation "user_stats" .failed error)
      { prepared with userResults := prepared.userResults ++ [result] }

/-- A turn of the loop over the media. -/
def pushMedia (prepared : PreparedSubmitBatch) (media : SubmitMedia) (index : Nat) :
    PreparedSubmitBatch :=
  let result := ObjectResult.new media.id
  match parseI64Id media.id "media.id" with
  | .error error => { prepared with mediaResults := prepared.mediaResults ++ [result.fatal error] }
  | .ok mediaId =>
    if lastIndex mediaId ≠ some index then
      { prepared with mediaResults := prepared.mediaResults ++ [shadowed result] }
    else
      let (prepared, result) :=
        match convertMedia context.parseUuid mediaId media with
        | .ok model => ({ prepared with media := push prepared.media index model }, result)
        | .error error => (prepared, result.operation "media" .failed error)
      let (prepared, result) :=
        match convertMediaResource mediaId media now with
        | none => (prepared, result)
        | some (.ok resource) =>
          ({ prepared with mediaResources := push prepared.mediaResources index resource },
            result)
        | some (.error error) => (prepared, result.operation "media_resource" .failed error)
      { prepared with mediaResults := prepared.mediaResults ++ [result] }

/-- A turn of the loop over the tweets. -/
def pushTweet (prepared : PreparedSubmitBatch) (tweet : SubmitTweet) (index : Nat) :
    PreparedSubmitBatch :=
  let result := ObjectResult.new tweet.id
  match parseI64Id tweet.id "tweet.id" with
  | .error error => { prepared with tweetResults := prepared.tweetResults ++ [result.fatal error] }
  | .ok tweetId =>
    if lastIndex tweetId ≠ some index then
      { prepared with tweetResults := prepared.tweetResults ++ [shadowed result] }
    else
      match parseI64Id tweet.authorId "tweet.authorId" with
      | .error error =>
        { prepared with tweetResults := prepared.tweetResults ++ [result.fatal error] }
      | .ok authorId =>
        let prepared := { prepared with
          tweetAuthors := push prepared.tweetAuthors index ⟨authorId, none⟩ }
        let place := tweet.place.bind convertTweetPlace
        let prepared := { prepared with
          tweetPlaces := pushOption prepared.tweetPlaces index place }
        match convertTweet context.store context.lookupIds tweetId authorId
            (place.map TweetPlace.id) tweet now with
        | .error error =>
          { prepared with
            tweetResults :=
              prepared.tweetResults ++ [result.operation "tweet" .failed error] }
        | .ok converted =>
          { prepared with
            tweets := push prepared.tweets index converted.tweet
            tweetEdits := pushOption prepared.tweetEdits index converted.edit
            tweetPolicies := pushOption prepared.tweetPolicies index converted.policy
            tweetCommunityNotes :=
              pushOption prepared.tweetCommunityNotes index converted.communityNote
            tweetStats := pushOption prepared.tweetStats index converted.stats
            tweetRelations := push prepared.tweetRelations index converted.relations
            tweetResults := prepared.tweetResults ++ [result] }

end Turns

/-- The loops, one after the other. -/
def prepareLoop (store : LookupStore) (parseUuid : String → Option Uuid) (clocks : Clocks)
    (payload : SubmitTweetRequest) : PreparedSubmitBatch :=
  let context := ⟨store, (resolveSubmitLookupIds store payload).toOption, parseUuid⟩
  let users := payload.users.zipIdx.foldl (fun prepared (user, index) =>
    pushUser context (clocks.user index)
      (lastValidIndex "user.id" SubmitUser.id payload.users) prepared user index) .new
  let media := payload.media.zipIdx.foldl (fun prepared (media, index) =>
    pushMedia context (clocks.media index)
      (lastValidIndex "media.id" SubmitMedia.id payload.media) prepared media index) users
  payload.tweets.zipIdx.foldl (fun prepared (tweet, index) =>
    pushTweet context (clocks.tweet index)
      (lastValidIndex "tweet.id" SubmitTweet.id payload.tweets) prepared tweet index) media

/-! ## A turn pushes what its item gives -/

section Prepared

variable (prepared : PreparedSubmitBatch) (index : Nat)

def appendUser (user : PreparedUser) : PreparedSubmitBatch :=
  { prepared with
    userResults := prepared.userResults ++ [user.result]
    users := pushOption prepared.users index user.user
    userSnapshots := pushOption prepared.userSnapshots index user.snapshot
    userStats := pushOption prepared.userStats index user.stats }

def appendMedia (media : PreparedMedia) : PreparedSubmitBatch :=
  { prepared with
    mediaResults := prepared.mediaResults ++ [media.result]
    media := pushOption prepared.media index media.media
    mediaResources := pushOption prepared.mediaResources index media.resource }

def appendTweet (tweet : PreparedTweet) : PreparedSubmitBatch :=
  { prepared with
    tweetResults := prepared.tweetResults ++ [tweet.result]
    tweetAuthors := pushOption prepared.tweetAuthors index tweet.author
    tweetPlaces := pushOption prepared.tweetPlaces index tweet.place
    tweets := pushOption prepared.tweets index (tweet.converted.map ConvertedTweet.tweet)
    tweetEdits := pushOption prepared.tweetEdits index (tweet.converted.bind ConvertedTweet.edit)
    tweetPolicies :=
      pushOption prepared.tweetPolicies index (tweet.converted.bind ConvertedTweet.policy)
    tweetCommunityNotes := pushOption prepared.tweetCommunityNotes index
      (tweet.converted.bind ConvertedTweet.communityNote)
    tweetStats := pushOption prepared.tweetStats index (tweet.converted.bind ConvertedTweet.stats)
    tweetRelations :=
      pushOption prepared.tweetRelations index (tweet.converted.map ConvertedTweet.relations) }

variable {context : PrepareContext} {now : OffsetDateTime} {lastIndex : Int → Option Nat}

theorem pushUser_eq (user : SubmitUser) :
    pushUser context now lastIndex prepared user index =
      appendUser prepared index (prepareUser context now lastIndex index user) := by
  unfold pushUser prepareUser
  cases parseI64Id user.id "user.id" with
  | error error => rfl
  | ok userId =>
    by_cases isLast : lastIndex userId = some index
    · simp only [isLast, ne_eq, not_true_eq_false, if_false]
      cases user.profile with
      | none =>
        cases user.stats with
        | none => rfl
        | some stats =>
          dsimp only [Option.map_some]
          cases convertUserStats userId user.fetchedAt stats now <;> rfl
      | some profile =>
        dsimp only [Option.map_some]
        cases convertUserSnapshot context.store context.lookupIds userId user profile now <;>
          cases user.stats with
          | none => rfl
          | some stats =>
            dsimp only [Option.map_some]
            cases convertUserStats userId user.fetchedAt stats now <;> rfl
    · simp only [ne_eq, isLast, not_false_eq_true, if_true]
      rfl

theorem pushMedia_eq (media : SubmitMedia) :
    pushMedia context now lastIndex prepared media index =
      appendMedia prepared index (prepareMedia context now lastIndex index media) := by
  unfold pushMedia prepareMedia
  cases parseI64Id media.id "media.id" with
  | error error => rfl
  | ok mediaId =>
    by_cases isLast : lastIndex mediaId = some index
    · simp only [isLast, ne_eq, not_true_eq_false, if_false]
      cases convertMedia context.parseUuid mediaId media <;>
        cases convertMediaResource mediaId media now with
        | none => rfl
        | some resource => cases resource <;> rfl
    · simp only [ne_eq, isLast, not_false_eq_true, if_true]
      rfl

theorem pushTweet_eq (tweet : SubmitTweet) :
    pushTweet context now lastIndex prepared tweet index =
      appendTweet prepared index (prepareTweet context now lastIndex index tweet) := by
  unfold pushTweet prepareTweet
  cases parseI64Id tweet.id "tweet.id" with
  | error error => rfl
  | ok tweetId =>
    by_cases isLast : lastIndex tweetId = some index
    · simp only [isLast, ne_eq, not_true_eq_false, if_false]
      cases parseI64Id tweet.authorId "tweet.authorId" with
      | error error => rfl
      | ok authorId =>
        cases converted : convertTweet context.store context.lookupIds tweetId authorId
            ((tweet.place.bind convertTweetPlace).map TweetPlace.id) tweet now <;>
          simp only [converted] <;> rfl
    · simp only [ne_eq, isLast, not_false_eq_true, if_true]
      rfl

end Prepared

/-! ## The lists the loops leave -/

section Loops

variable {α β : Type}

/-- `collect`, for items whose indices start at a number. -/
def collectFrom (start : Nat) (part : α → Option β) (items : List α) : List (Indexed β) :=
  (items.zipIdx start).filterMap fun (item, index) => (part item).map fun value => ⟨index, value⟩

theorem pushOption_append (items : List (Indexed β)) (start : Nat) (part : α → Option β)
    (item : α) (rest : List α) :
    pushOption items start (part item) ++ collectFrom (start + 1) part rest =
      items ++ collectFrom start part (item :: rest) := by
  cases given : part item <;> simp [pushOption, push, collectFrom, given]

theorem loopUsers_eq (prepare : SubmitUser → Nat → PreparedUser) (users : List SubmitUser)
    (start : Nat) (prepared : PreparedSubmitBatch) :
    (users.zipIdx start).foldl (fun prepared (user, index) =>
        appendUser prepared index (prepare user index)) prepared =
      { prepared with
        userResults := prepared.userResults ++
          ((users.zipIdx start).map fun (user, index) => prepare user index).map
            PreparedUser.result
        users := prepared.users ++ collectFrom start PreparedUser.user
          ((users.zipIdx start).map fun (user, index) => prepare user index)
        userSnapshots := prepared.userSnapshots ++ collectFrom start PreparedUser.snapshot
          ((users.zipIdx start).map fun (user, index) => prepare user index)
        userStats := prepared.userStats ++ collectFrom start PreparedUser.stats
          ((users.zipIdx start).map fun (user, index) => prepare user index) } := by
  induction users generalizing start prepared with
  | nil => simp [collectFrom]
  | cons user users inductionHypothesis =>
    simp only [List.zipIdx_cons, List.foldl_cons, inductionHypothesis, List.map_cons]
    simp only [appendUser, pushOption_append, List.append_assoc, List.singleton_append]

theorem loopMedia_eq (prepare : SubmitMedia → Nat → PreparedMedia) (media : List SubmitMedia)
    (start : Nat) (prepared : PreparedSubmitBatch) :
    (media.zipIdx start).foldl (fun prepared (media, index) =>
        appendMedia prepared index (prepare media index)) prepared =
      { prepared with
        mediaResults := prepared.mediaResults ++
          ((media.zipIdx start).map fun (media, index) => prepare media index).map
            PreparedMedia.result
        media := prepared.media ++ collectFrom start PreparedMedia.media
          ((media.zipIdx start).map fun (media, index) => prepare media index)
        mediaResources := prepared.mediaResources ++ collectFrom start PreparedMedia.resource
          ((media.zipIdx start).map fun (media, index) => prepare media index) } := by
  induction media generalizing start prepared with
  | nil => simp [collectFrom]
  | cons item media inductionHypothesis =>
    simp only [List.zipIdx_cons, List.foldl_cons, inductionHypothesis, List.map_cons]
    simp only [appendMedia, pushOption_append, List.append_assoc, List.singleton_append]

theorem loopTweets_eq (prepare : SubmitTweet → Nat → PreparedTweet) (tweets : List SubmitTweet)
    (start : Nat) (prepared : PreparedSubmitBatch) :
    (tweets.zipIdx start).foldl (fun prepared (tweet, index) =>
        appendTweet prepared index (prepare tweet index)) prepared =
      let items := (tweets.zipIdx start).map fun (tweet, index) => prepare tweet index
      { prepared with
        tweetResults := prepared.tweetResults ++ items.map PreparedTweet.result
        tweetAuthors := prepared.tweetAuthors ++ collectFrom start PreparedTweet.author items
        tweetPlaces := prepared.tweetPlaces ++ collectFrom start PreparedTweet.place items
        tweets := prepared.tweets ++
          collectFrom start (fun tweet => tweet.converted.map ConvertedTweet.tweet) items
        tweetEdits := prepared.tweetEdits ++
          collectFrom start (fun tweet => tweet.converted.bind ConvertedTweet.edit) items
        tweetPolicies := prepared.tweetPolicies ++
          collectFrom start (fun tweet => tweet.converted.bind ConvertedTweet.policy) items
        tweetCommunityNotes := prepared.tweetCommunityNotes ++
          collectFrom start (fun tweet => tweet.converted.bind ConvertedTweet.communityNote) items
        tweetStats := prepared.tweetStats ++
          collectFrom start (fun tweet => tweet.converted.bind ConvertedTweet.stats) items
        tweetRelations := prepared.tweetRelations ++
          collectFrom start (fun tweet => tweet.converted.map ConvertedTweet.relations) items } := by
  induction tweets generalizing start prepared with
  | nil => simp [collectFrom]
  | cons item tweets inductionHypothesis =>
    simp only [List.zipIdx_cons, List.foldl_cons, inductionHypothesis, List.map_cons]
    simp only [appendTweet, List.append_assoc, List.singleton_append]
    -- Each list takes what the first item gives and then the rest.
    have taken : ∀ {β : Type} (items : List (Indexed β)) (part : PreparedTweet → Option β),
        pushOption items start (part (prepare item start)) ++ collectFrom (start + 1) part
            ((tweets.zipIdx (start + 1)).map fun (tweet, index) => prepare tweet index) =
          items ++ collectFrom start part (prepare item start ::
            (tweets.zipIdx (start + 1)).map fun (tweet, index) => prepare tweet index) :=
      fun items part => pushOption_append items start part _ _
    simp only [← taken]

/-- The loops leave the batch of the items prepared one by one. -/
theorem prepareLoop_eq (store : LookupStore) (parseUuid : String → Option Uuid) (clocks : Clocks)
    (payload : SubmitTweetRequest) :
    prepareLoop store parseUuid clocks payload =
      prepareSubmitBatch store parseUuid clocks payload := by
  unfold prepareLoop
  simp only [pushUser_eq, pushMedia_eq, pushTweet_eq]
  rw [loopUsers_eq fun user index => prepareUser
      ⟨store, (resolveSubmitLookupIds store payload).toOption, parseUuid⟩ (clocks.user index)
      (lastValidIndex "user.id" SubmitUser.id payload.users) index user,
    loopMedia_eq fun media index => prepareMedia
      ⟨store, (resolveSubmitLookupIds store payload).toOption, parseUuid⟩ (clocks.media index)
      (lastValidIndex "media.id" SubmitMedia.id payload.media) index media,
    loopTweets_eq fun tweet index => prepareTweet
      ⟨store, (resolveSubmitLookupIds store payload).toOption, parseUuid⟩ (clocks.tweet index)
      (lastValidIndex "tweet.id" SubmitTweet.id payload.tweets) index tweet]
  rfl

end Loops

end TweetDb.Submit
