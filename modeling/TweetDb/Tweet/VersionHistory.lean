import TweetDb.Tweet.Snapshots

/-! # Late observations

Each version table records like the recorder of `Versions.recordAll`, subject by
subject.  An observation dropped as unchanged is compared with its predecessor
at that moment; one that arrives later with a time in between takes over.
-/

namespace TweetDb.Tweet

open Relational Versions

variable {κ : Type}

/-! ## One call -/

theorem mem_versionsOf {table : Table (Version κ)} {subjectId : Int} {row : Version κ} :
    row ∈ versionsOf table subjectId ↔ row ∈ table.rows ∧ row.subjectId = subjectId := by
  simp [versionsOf]

theorem versionsOf_apart (table : Table (Version κ)) (subjectId : Int) :
    Apart Version.recordedAt (versionsOf table subjectId) := by
  intro a inA b inB same
  rw [mem_versionsOf] at inA inB
  have keys : Row.key a = Row.key b := Prod.ext (inA.2.trans inB.2.symm) same
  have foundA := Table.find_of_mem inA.1
  rw [keys, Table.find_of_mem inB.1, Option.some.injEq] at foundA
  exact foundA.symm

theorem mem_of_mem_distinctInput {input : List (Version κ)} {row : Version κ}
    (kept : row ∈ distinctInput input) : row ∈ input :=
  mem_orderBy.mp (mem_of_mem_distinctOn kept)

theorem mem_distinctInput {input : List (Version κ)} {row : Version κ} (present : row ∈ input)
    (alone : ∀ other ∈ input, other.subjectId = row.subjectId →
      other.recordedAt = row.recordedAt → other = row) : row ∈ distinctInput input := by
  apply mem_distinctOn_of_alone (mem_orderBy.mpr present)
  intro other member same
  rw [Prod.ext_iff] at same
  exact alone other (mem_orderBy.mp member) same.1 same.2

theorem distinctInput_pairwise (input : List (Version κ)) :
    (distinctInput input).Pairwise fun a b => ¬ Row.clash a b :=
  distinctOn_pairwise _ _

/-- The input has one row of each key. -/
theorem distinctInput_eq {input : List (Version κ)} {a b : Version κ}
    (inA : a ∈ distinctInput input) (inB : b ∈ distinctInput input) (clashes : Row.clash a b) :
    a = b := by
  by_contra different
  have symmetric : Std.Symm fun a b : Version κ => ¬ Row.clash a b :=
    ⟨fun _ _ apart clashes => apart (Row.clash_symm clashes)⟩
  exact (distinctInput_pairwise input).forall inA inB different clashes

section Append

variable [VersionColumns κ] {hasParent : Int → Bool} {table : Table (Version κ)}
  {input : List (Version κ)} {row : Version κ}

/-- `unchanged` says that the row repeats the newest version not later than it. -/
theorem classify_unchanged :
    (classify hasParent table row).unchanged = true ↔
      hasParent row.subjectId = true ∧
        Repeats Version.recordedAt Version.content (versionsOf table row.subjectId) row := by
  unfold Repeats classify latestAt
  rw [Bool.and_eq_true]
  cases atOrBefore Version.recordedAt (versionsOf table row.subjectId) row.recordedAt with
  | none => simp
  | some latest => simp [VersionColumns.notDistinct_iff]

theorem mem_inserted :
    row ∈ (appendIfChanged hasParent input table).inserted ↔
      row ∈ distinctInput input ∧ hasParent row.subjectId = true ∧
        ¬ Repeats Version.recordedAt Version.content (versionsOf table row.subjectId) row ∧
        ∀ stored ∈ table.rows, ¬ Row.clash stored row := by
  have apart : ((((distinctInput input).map (classify hasParent table)).filter fun row =>
      row.hasParent && !row.unchanged).map (·.version)).Pairwise fun a b => ¬ Row.clash a b := by
    rw [List.pairwise_map]
    apply List.Pairwise.filter
    rw [List.pairwise_map]
    exact distinctInput_pairwise input
  show row ∈ (table.insertNew _).1 ↔ _
  rw [Table.mem_insertNew apart]
  have kept : row ∈ (((distinctInput input).map (classify hasParent table)).filter fun row =>
      row.hasParent && !row.unchanged).map (·.version) ↔
      row ∈ distinctInput input ∧ hasParent row.subjectId = true ∧
        (classify hasParent table row).unchanged = false := by
    constructor
    · intro listed
      obtain ⟨classified, passes, rfl⟩ := List.mem_map.mp listed
      rw [List.mem_filter] at passes
      obtain ⟨original, member, rfl⟩ := List.mem_map.mp passes.1
      have parentAndChanged := passes.2
      rw [Bool.and_eq_true, Bool.not_eq_true'] at parentAndChanged
      exact ⟨member, parentAndChanged⟩
    · rintro ⟨member, parent, changed⟩
      apply List.mem_map.mpr
      refine ⟨classify hasParent table row, List.mem_filter.mpr ⟨List.mem_map_of_mem member, ?_⟩,
        rfl⟩
      rw [changed]
      simp [classify, parent]
  rw [kept, ← Bool.not_eq_true, classify_unchanged]
  constructor
  · rintro ⟨⟨member, parent, changed⟩, free⟩
    exact ⟨member, parent, fun repeated => changed ⟨parent, repeated⟩, free⟩
  · rintro ⟨member, parent, changed, free⟩
    exact ⟨⟨member, parent, fun unchanged => changed unchanged.2⟩, free⟩

theorem appended_rows :
    (appendIfChanged hasParent input table).table.rows =
      table.rows ++ (appendIfChanged hasParent input table).inserted :=
  Table.insertNew_rows _ _

/-- For one subject, a call records like the recorder. -/
theorem mem_versionsOf_appended [DecidableEq κ] {subjectId : Int}
    (parent : hasParent subjectId = true)
    (distinct : ((versionsOf table subjectId ++
      input.filter fun row => decide (row.subjectId = subjectId)).map
        Version.recordedAt).Nodup) :
    row ∈ versionsOf (appendIfChanged hasParent input table).table subjectId ↔
      row ∈ record Version.recordedAt Version.content (versionsOf table subjectId)
        (input.filter fun row => decide (row.subjectId = subjectId)) := by
  rw [List.map_append, List.nodup_append] at distinct
  have apart := Apart.of_nodup distinct.2.1
  rw [mem_versionsOf, appended_rows, List.mem_append, mem_inserted, mem_record, mem_versionsOf,
    List.mem_filter, decide_eq_true_eq]
  constructor
  · rintro ⟨old | ⟨member, _, changed, _⟩, rfl⟩
    · exact .inl ⟨old, rfl⟩
    · exact .inr ⟨⟨mem_of_mem_distinctInput member, rfl⟩, changed⟩
  · rintro (old | ⟨⟨member, rfl⟩, changed⟩)
    · exact ⟨.inl old.1, old.2⟩
    · have own : row ∈ input.filter fun other => decide (other.subjectId = row.subjectId) := by
        simp [member]
      refine ⟨.inr ⟨mem_distinctInput member ?_, parent, changed, ?_⟩, rfl⟩
      · intro other present sameSubject sameTime
        exact apart other (by simp [present, sameSubject]) row own sameTime
      · intro stored present clashes
        rw [Version.clash_iff] at clashes
        have storedHere : stored ∈ versionsOf table row.subjectId :=
          mem_versionsOf.mpr ⟨present, clashes.1⟩
        exact distinct.2.2 _ (List.mem_map_of_mem storedHere) _ (List.mem_map_of_mem own)
          clashes.2

end Append

/-! ## The latest view -/

theorem mem_vLatest {table : Table (Version κ)} {row : Version κ} :
    row ∈ vLatest table ↔ row ∈ table.rows ∧ ∀ other ∈ table.rows,
      other.subjectId = row.subjectId → other.recordedAt ≤ row.recordedAt := by
  let columns : Version κ → List Int := fun row => [row.subjectId, -row.recordedAt]
  have columns_le : ∀ a b, columnsLe (columns a) (columns b) = true ↔
      a.subjectId < b.subjectId ∨
        a.subjectId = b.subjectId ∧ -a.recordedAt ≤ -b.recordedAt :=
    fun _ _ => columnsLe_pair
  -- The primary key makes the order of the stored rows antisymmetric.
  have sorted : (orderBy columns table.rows).Pairwise fun a b =>
      columnsLe (columns a) (columns b) = true ∧ (Row.clash a b → a = b) := by
    apply (orderBy_sorted columns table.rows).imp_of_mem
    intro a b inA inB le
    refine ⟨le, fun clashes => ?_⟩
    rw [mem_orderBy] at inA inB
    have found := Table.find_of_mem inA
    have sameKey : Row.key a = Row.key b := clashes
    rw [sameKey, Table.find_of_mem inB, Option.some.injEq] at found
    exact found.symm
  have antisymm : ∀ a b : Version κ, a.subjectId = b.subjectId →
      (columnsLe (columns a) (columns b) = true ∧ (Row.clash a b → a = b)) →
      (columnsLe (columns b) (columns a) = true ∧ (Row.clash b a → b = a)) → a = b := by
    rintro a b same ⟨below, together⟩ ⟨above, _⟩
    have columnsEq := columnsLe_antisymm below above
    simp only [columns, List.cons.injEq, neg_inj, and_true] at columnsEq
    exact together (Version.clash_iff.mpr columnsEq)
  show row ∈ distinctOn Version.subjectId (orderBy columns table.rows) ↔ _
  rw [mem_distinctOn_iff sorted antisymm fun a => ⟨columnsLe_refl _, fun _ => rfl⟩, mem_orderBy]
  constructor
  · rintro ⟨present, least⟩
    refine ⟨present, fun other member same => ?_⟩
    have le := (least other (mem_orderBy.mpr member) same).1
    rcases (columns_le row other).mp le with below | ⟨_, newer⟩
    · exact absurd same (ne_of_gt below)
    · exact Int.le_of_neg_le_neg newer
  · rintro ⟨present, greatest⟩
    refine ⟨present, fun other member same => ?_⟩
    rw [mem_orderBy] at member
    have le := greatest other member same
    constructor
    · exact (columns_le row other).mpr (.inr ⟨same.symm, Int.neg_le_neg le⟩)
    · intro clashes
      have found := Table.find_of_mem present
      have sameKey : Row.key row = Row.key other := clashes
      rw [sameKey, Table.find_of_mem member, Option.some.injEq] at found
      exact found.symm

/-- The row of a subject in the latest view is its newest version. -/
theorem vLatest_find (table : Table (Version κ)) (subjectId : Int) :
    (vLatest table).find? (fun row => decide (row.subjectId = subjectId)) =
      newest Version.recordedAt (fun _ => True) (versionsOf table subjectId) := by
  have shown : ∀ row, row ∈ vLatest table ∧ row.subjectId = subjectId ↔
      newest Version.recordedAt (fun _ => True) (versionsOf table subjectId) = some row := by
    intro row
    rw [newest_eq_some (versionsOf_apart table subjectId), mem_vLatest, mem_versionsOf]
    constructor
    · rintro ⟨⟨present, greatest⟩, rfl⟩
      refine ⟨⟨present, rfl⟩, trivial, fun other member _ => ?_⟩
      rw [mem_versionsOf] at member
      exact greatest other member.1 member.2
    · rintro ⟨⟨present, rfl⟩, _, greatest⟩
      refine ⟨⟨present, fun other member same => ?_⟩, rfl⟩
      exact greatest other (mem_versionsOf.mpr ⟨member, same⟩) trivial
  cases found : (vLatest table).find? fun row => decide (row.subjectId = subjectId) with
  | none =>
    rw [List.find?_eq_none] at found
    cases newestRow : newest Version.recordedAt (fun _ => True) (versionsOf table subjectId) with
    | none => rfl
    | some row =>
      obtain ⟨member, same⟩ := (shown row).mpr newestRow
      exact absurd (decide_eq_true same) (found row member)
  | some row =>
    have same := List.find?_some found
    have member := List.mem_of_find?_eq_some found
    exact ((shown row).mp ⟨member, of_decide_eq_true same⟩).symm

/-! ## Sequences of calls -/

/-- A version table with the calls that append to it. -/
structure VersionLog (σ ι κ : Type) [VersionColumns κ] where
  append : ι → σ → Option σ
  input : ι → List (Version κ)
  table : σ → Table (Version κ)
  hasParent : σ → Int → Bool
  appends : ∀ {call state state'}, append call state = some state' →
    table state' = (appendIfChanged (hasParent state) (input call) (table state)).table ∧
      hasParent state' = hasParent state

def userSnapshotLog : VersionLog UserTables SnapshotCall UserSnapshotColumns where
  append call tables := (appendUserSnapshotsIfChanged call tables).map Prod.snd
  input call := call.snapshots.map UserSnapshotPayload.toVersion
  table := UserTables.snapshots
  hasParent := UserTables.hasUser
  appends := by
    intro call tables tables' appended
    unfold appendUserSnapshotsIfChanged at appended
    rw [Option.map_map, Option.map_eq_some_iff] at appended
    obtain ⟨queued, _, rfl⟩ := appended
    exact ⟨rfl, rfl⟩

def mediaResourceLog : VersionLog MediaTables (List MediaResource) MediaResourceColumns where
  append call tables := some (appendMediaResourcesIfChanged call tables).2
  input call := call
  table := MediaTables.resources
  hasParent := MediaTables.hasMedia
  appends := by
    rintro call tables tables' appended
    cases appended
    exact ⟨rfl, rfl⟩

namespace VersionLog

variable {σ ι : Type} [VersionColumns κ] (log : VersionLog σ ι κ)

/-- The calls one after the other; each completes. -/
def run (calls : List ι) (start : σ) : Option σ :=
  calls.foldlM (fun state call => log.append call state) start

/-- What a call observes of one subject. -/
def observed (subjectId : Int) (call : ι) : List (Version κ) :=
  (log.input call).filter fun row => decide (row.subjectId = subjectId)

def allObserved (subjectId : Int) (calls : List ι) : List (Version κ) :=
  (calls.map (log.observed subjectId)).flatten

/-- From the earliest observation on, the stored versions show what was observed. -/
structure ShowsObserved (subjectId : Int) (calls : List ι) (finish : σ) : Prop where
  history : ∀ t, (∃ row ∈ log.allObserved subjectId calls, row.recordedAt ≤ t) →
    (latestAt (log.table finish) subjectId t).map Version.content =
      (atOrBefore Version.recordedAt (log.allObserved subjectId calls) t).map Version.content
  latest : ((vLatest (log.table finish)).find? fun row => decide (row.subjectId = subjectId)).map
      Version.content =
    (newest Version.recordedAt (fun _ => True) (log.allObserved subjectId calls)).map
      Version.content

/-- The call in the middle drops an observation only if the observation just before
it, of all calls, has its content too. -/
def DropsRepeats (subjectId : Int) (calls : List ι) (call : ι) (before : σ) : Prop :=
  ∀ row ∈ log.observed subjectId call,
    (latestAt (log.table before) subjectId row.recordedAt).map Version.content =
        some row.content →
      (Versions.before Version.recordedAt (log.allObserved subjectId calls) row.recordedAt).map
        Version.content = some row.content

/-- Every call of the run drops only what repeats the observation just before it. -/
def DropsOnlyRepeats (subjectId : Int) (calls : List ι) (start : σ) : Prop :=
  ∀ earlier call later before, calls = earlier ++ call :: later →
    log.run earlier start = some before → log.DropsRepeats subjectId calls call before

section Run

variable {log} {subjectId : Int} {calls : List ι} {start finish : σ}

theorem run_concat (call : ι) :
    log.run (calls ++ [call]) start = (log.run calls start).bind (log.append call) := by
  unfold run
  rw [List.foldlM_append]
  cases calls.foldlM (fun state call => log.append call state) start with
  | none => rfl
  | some state => simp

theorem run_prefix {earlier later : List ι} (ran : log.run (earlier ++ later) start = some finish) :
    ∃ before, log.run earlier start = some before := by
  unfold run at ran
  rw [List.foldlM_append] at ran
  obtain ⟨before, ranEarlier, _⟩ := Option.bind_eq_some_iff.mp ran
  exact ⟨before, ranEarlier⟩

theorem allObserved_concat (call : ι) :
    log.allObserved subjectId (calls ++ [call]) =
      log.allObserved subjectId calls ++ log.observed subjectId call := by
  simp [allObserved]

/-- What is observed shows at every time, the times before the first observation included. -/
theorem showsObserved_iff_faithful
    (part : ∀ row ∈ versionsOf (log.table finish) subjectId, row ∈ log.allObserved subjectId calls) :
    log.ShowsObserved subjectId calls finish ↔
      Faithful Version.recordedAt Version.content (versionsOf (log.table finish) subjectId)
        (log.allObserved subjectId calls) := by
  constructor
  · intro shows t
    by_cases begun : ∃ row ∈ log.allObserved subjectId calls, row.recordedAt ≤ t
    · exact shows.history t begun
    · have nothing : ∀ rows, (∀ row ∈ rows, row ∈ log.allObserved subjectId calls) →
          atOrBefore Version.recordedAt rows t = none := by
        intro rows included
        apply newest_eq_none.mpr
        intro row member early
        exact begun ⟨row, included row member, early⟩
      rw [nothing _ part, nothing _ fun _ => id]
  · intro faithful
    refine ⟨fun t _ => faithful t, ?_⟩
    rw [vLatest_find]
    exact faithful_newest faithful part

variable [DecidableEq κ]

/-- A run of calls records what the recorder records. -/
theorem run_records (ran : log.run calls start = some finish)
    (parent : log.hasParent start subjectId = true)
    (fresh : versionsOf (log.table start) subjectId = [])
    (distinct : ((log.allObserved subjectId calls).map Version.recordedAt).Nodup) :
    log.hasParent finish = log.hasParent start ∧
      ∀ row, row ∈ versionsOf (log.table finish) subjectId ↔
        row ∈ recordAll Version.recordedAt Version.content
          (calls.map (log.observed subjectId)) := by
  induction calls using List.reverseRecOn generalizing finish with
  | nil =>
    cases ran
    refine ⟨rfl, fun row => ?_⟩
    rw [fresh]
    exact Iff.rfl
  | append_singleton calls call inductionHypothesis =>
    rw [run_concat, Option.bind_eq_some_iff] at ran
    obtain ⟨middle, ran, appended⟩ := ran
    rw [allObserved_concat, List.map_append, List.nodup_append] at distinct
    obtain ⟨parents, recorded⟩ := inductionHypothesis ran distinct.1
    obtain ⟨table, parents'⟩ := log.appends appended
    refine ⟨parents'.trans parents, fun row => ?_⟩
    have timesApart : ((versionsOf (log.table middle) subjectId ++
        log.observed subjectId call).map Version.recordedAt).Nodup := by
      rw [List.map_append, List.nodup_append]
      have storedApart : (versionsOf (log.table middle) subjectId).Nodup := by
        apply ((log.table middle).unique.filter _).imp
        rintro a b notClashing rfl
        exact notClashing (Row.clash_of_key rfl)
      refine ⟨storedApart.map_on (versionsOf_apart _ _), distinct.2.1, ?_⟩
      · intro stored inStored new inNew
        obtain ⟨row, member, rfl⟩ := List.mem_map.mp inStored
        exact distinct.2.2 _ (List.mem_map_of_mem
          (mem_observed_of_recorded ((recorded row).mp member))) _ inNew
    rw [table, mem_versionsOf_appended (by rw [parents]; exact parent) timesApart,
      List.map_append, List.map_singleton, recordAll_concat, mem_record, mem_record,
      recorded row, repeats_congr _ recorded]
    · exact Iff.rfl
    · intro a inA b inB
      exact versionsOf_apart _ _ a ((recorded a).mpr inA) b ((recorded b).mpr inB)

/-- From an empty history, the shown versions are right exactly when each call drops
only what repeats the observation just before it. -/
theorem showsObserved_iff (ran : log.run calls start = some finish)
    (parent : log.hasParent start subjectId = true)
    (fresh : versionsOf (log.table start) subjectId = [])
    (distinct : ((log.allObserved subjectId calls).map Version.recordedAt).Nodup) :
    log.ShowsObserved subjectId calls finish ↔ log.DropsOnlyRepeats subjectId calls start := by
  have records := (run_records ran parent fresh distinct).2
  have apart : Apart Version.recordedAt (recordAll Version.recordedAt Version.content
      (calls.map (log.observed subjectId))) := by
    intro a inA b inB
    exact versionsOf_apart _ _ a ((records a).mpr inA) b ((records b).mpr inB)
  rw [showsObserved_iff_faithful fun row member =>
      mem_observed_of_recorded ((records row).mp member),
    faithful_congr apart records]
  show Faithful _ _ _ (calls.map (log.observed subjectId)).flatten ↔ _
  rw [recordAll_faithful_iff distinct]
  -- What the statement sees stored before a call is what the recorder has recorded.
  have repeats_iff : ∀ {earlier later before}, calls = earlier ++ later →
      log.run earlier start = some before → ∀ row,
        Repeats Version.recordedAt Version.content
            (versionsOf (log.table before) subjectId) row ↔
          Repeats Version.recordedAt Version.content
            (recordAll Version.recordedAt Version.content
              (earlier.map (log.observed subjectId))) row := by
    rintro earlier later before rfl ranEarlier row
    have distinctEarlier : ((log.allObserved subjectId earlier).map Version.recordedAt).Nodup := by
      unfold allObserved at distinct ⊢
      rw [List.map_append, List.flatten_append, List.map_append, List.nodup_append] at distinct
      exact distinct.1
    have recordsEarlier := (run_records ranEarlier parent fresh distinctEarlier).2
    have apartEarlier : Apart Version.recordedAt (recordAll Version.recordedAt Version.content
        (earlier.map (log.observed subjectId))) := by
      intro a inA b inB
      exact versionsOf_apart _ _ a ((recordsEarlier a).mpr inA) b ((recordsEarlier b).mpr inB)
    exact repeats_congr apartEarlier recordsEarlier row
  constructor
  · intro onArrival earlier call later before split ranEarlier row observed repeated
    have splitObserved : calls.map (log.observed subjectId) =
        earlier.map (log.observed subjectId) ++
          log.observed subjectId call :: later.map (log.observed subjectId) := by
      rw [split, List.map_append, List.map_cons]
    exact onArrival _ _ _ splitObserved row observed
      ((repeats_iff split ranEarlier row).mp repeated)
  · intro drops earlierObserved callObserved laterObserved splitObserved row observed repeated
    obtain ⟨earlier, rest, split, rfl, restObserved⟩ := List.map_eq_append_iff.mp splitObserved
    obtain ⟨call, later, rfl, rfl, rfl⟩ := List.map_eq_cons_iff.mp restObserved
    obtain ⟨before, ranEarlier⟩ := run_prefix (split ▸ ran)
    exact drops earlier call later before split ranEarlier row observed
      ((repeats_iff split ranEarlier row).mpr repeated)

end Run

end VersionLog

/-! ## The two tables -/

/-- For observations at distinct times, in any order of arrival, both tables show what was
observed exactly when no call drops an observation that differs from the one just before it. -/
theorem late_observations_shown_iff (subjectId : Int) :
    (∀ (calls : List SnapshotCall) (start finish : UserTables),
      userSnapshotLog.run calls start = some finish → start.hasUser subjectId = true →
      versionsOf start.snapshots subjectId = [] →
      ((userSnapshotLog.allObserved subjectId calls).map Version.recordedAt).Nodup →
      (userSnapshotLog.ShowsObserved subjectId calls finish ↔
        userSnapshotLog.DropsOnlyRepeats subjectId calls start)) ∧
    (∀ (calls : List (List MediaResource)) (start finish : MediaTables),
      mediaResourceLog.run calls start = some finish → start.hasMedia subjectId = true →
      versionsOf start.resources subjectId = [] →
      ((mediaResourceLog.allObserved subjectId calls).map Version.recordedAt).Nodup →
      (mediaResourceLog.ShowsObserved subjectId calls finish ↔
        mediaResourceLog.DropsOnlyRepeats subjectId calls start)) := by
  constructor
  · intro calls start finish ran parent fresh distinct
    exact VersionLog.showsObserved_iff ran parent fresh distinct
  · intro calls start finish ran parent fresh distinct
    exact VersionLog.showsObserved_iff ran parent fresh distinct

/-- One call with one profile of user 1. -/
def profileCall (recordedAt : Timestamp) (displayName : String) : SnapshotCall where
  snapshots :=
    [{ userId := 1
       recordedAt := recordedAt
       displayName := displayName
       userName := "user"
       avatarUrl := none
       usesDefaultAvatar := none
       avatarShape := none
       bannerUrl := none
       location := none
       bio := none
       profileLinks := none
       identity := none
       features := none
       professional := none
       pinnedTweetIds := none }]
  newId _ := 7
  now := recordedAt

/-- User 1 without any snapshot. -/
def freshUser : UserTables where
  users := ⟨[⟨1, none⟩], List.pairwise_singleton _ _⟩
  snapshots := .empty
  indexQueue := .empty

/-- A media without any resource. -/
def freshMedia : MediaTables where
  media := ⟨[⟨5, .photo, none, none, none, none, [], [], none, none, none⟩],
    List.pairwise_singleton _ _⟩
  resources := .empty

/-- The profile of time 2 arrives last and repeats the one of time 1: it is dropped rightly. -/
theorem late_observations_shown_repeated :
    (∃ finish, userSnapshotLog.run
          [profileCall 1 "A", profileCall 3 "B", profileCall 2 "A"] freshUser = some finish ∧
        (userSnapshotLog.ShowsObserved 1
            [profileCall 1 "A", profileCall 3 "B", profileCall 2 "A"] finish ↔
          userSnapshotLog.DropsOnlyRepeats 1
            [profileCall 1 "A", profileCall 3 "B", profileCall 2 "A"] freshUser)) ∧
    (∃ finish, mediaResourceLog.run [[⟨5, 1, ⟨none, none, none⟩⟩]] freshMedia = some finish ∧
        (mediaResourceLog.ShowsObserved 5 [[⟨5, 1, ⟨none, none, none⟩⟩]] finish ↔
          mediaResourceLog.DropsOnlyRepeats 5 [[⟨5, 1, ⟨none, none, none⟩⟩]] freshMedia)) :=
  ⟨⟨_, rfl, (late_observations_shown_iff 1).1 _ freshUser _ rfl rfl rfl (by decide)⟩,
    ⟨_, rfl, (late_observations_shown_iff 5).2 _ freshMedia _ rfl rfl rfl (by decide)⟩⟩

/-- `A` at time 3 is dropped as unchanged since time 1; `B` at time 2 arrives after it and is
shown from then on. -/
theorem late_observation_hides_newer :
    ∃ finish, userSnapshotLog.run [profileCall 1 "A", profileCall 3 "A", profileCall 2 "B"]
        freshUser = some finish ∧
      ((userSnapshotLog.allObserved 1
        [profileCall 1 "A", profileCall 3 "A", profileCall 2 "B"]).map
          Version.recordedAt).Nodup ∧
      ¬ userSnapshotLog.ShowsObserved 1
        [profileCall 1 "A", profileCall 3 "A", profileCall 2 "B"] finish := by
  refine ⟨_, rfl, by decide, fun shows => ?_⟩
  have atTime3 := shows.history 3 (by decide)
  revert atTime3
  decide

end TweetDb.Tweet
