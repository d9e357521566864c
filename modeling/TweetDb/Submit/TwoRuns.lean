import TweetDb.Relational.Agree
import TweetDb.Submit.Execute

/-! # Two runs of a stage

A stage records an entry at its indices only, and records the same for it in
two runs whose statements end alike.
-/

namespace TweetDb.Submit

open Relational

/-! ## What is recorded at an index -/

section Record

variable {α : Type} {indices : α → List Nat} {record : α → ObjectResult → ObjectResult}

/-- The entries recorded at an index, in order. -/
def touching (indices : α → List Nat) (index : Nat) (entries : List α) : List α :=
  entries.flatMap fun entry => ((indices entry).filter (· == index)).map fun _ => entry

def recordAll (record : α → ObjectResult → ObjectResult) (entries : List α)
    (result : ObjectResult) : ObjectResult :=
  entries.foldl (fun result entry => record entry result) result

theorem touching_cons (entry : α) (entries : List α) (index : Nat) :
    touching indices index (entry :: entries) =
      touching indices index [entry] ++ touching indices index entries := by
  simp [touching]

theorem mem_touching {entries : List α} {index : Nat} {entry : α} :
    entry ∈ touching indices index entries ↔ entry ∈ entries ∧ index ∈ indices entry := by
  simp only [touching, List.mem_flatMap, List.mem_map, List.mem_filter, beq_iff_eq]
  constructor
  · intro ⟨other, member, _, ⟨named, same⟩, isEntry⟩
    subst isEntry
    exact ⟨member, same ▸ named⟩
  · intro ⟨member, named⟩
    exact ⟨entry, member, index, ⟨named, rfl⟩, rfl⟩

theorem recordAt_getElem? (indexList : List Nat) (entry : α) (results : List ObjectResult)
    (index : Nat) :
    (recordAt indexList (record entry) results)[index]? =
      results[index]?.map
        (recordAll record ((indexList.filter (· == index)).map fun _ => entry)) := by
  induction indexList generalizing results with
  | nil => exact Option.map_id'.symm
  | cons first indexList inductionHypothesis =>
    have step : recordAt (first :: indexList) (record entry) results =
        recordAt indexList (record entry) (results.modify first (record entry)) := rfl
    rw [step, inductionHypothesis, List.getElem?_modify]
    by_cases same : first = index
    · subst same
      cases results[first]? <;> simp [recordAll]
    · cases results[index]? <;> simp [recordAll, same]

theorem recordEach_getElem? (entries : List α) (results : List ObjectResult) (index : Nat) :
    (recordEach indices record entries results)[index]? =
      results[index]?.map (recordAll record (touching indices index entries)) := by
  induction entries generalizing results with
  | nil => exact Option.map_id'.symm
  | cons entry entries inductionHypothesis =>
    have step : recordEach indices record (entry :: entries) results =
        recordEach indices record entries (recordAt (indices entry) (record entry) results) := rfl
    rw [step, inductionHypothesis, recordAt_getElem?, touching_cons, Option.map_map]
    congr 1
    funext result
    simp [recordAll, touching]

theorem recordAll_congr {record' : α → ObjectResult → ObjectResult} {entries : List α}
    (same : ∀ entry ∈ entries, record entry = record' entry) :
    recordAll record entries = recordAll record' entries := by
  funext result
  induction entries generalizing result with
  | nil => rfl
  | cons entry entries inductionHypothesis =>
    have rest := inductionHypothesis fun other member => same other (List.mem_cons_of_mem _ member)
    simp only [recordAll, List.foldl_cons] at rest ⊢
    rw [same entry List.mem_cons_self, rest]

end Record

/-! ## One stage -/

/-- The error a statement fails with. -/
def failure {β : Type} : Except String β → Option String
  | .ok _ => none
  | .error error => some error

section Stage

variable {α β σ : Type} {indices : α → List Nat} {record : β → α → ObjectResult → ObjectResult}
  {fail : String → ObjectResult → ObjectResult} {entries entries' : List α}
  {statement statement' : Except String (β × σ)} {state state' : σ}
  {results results' : List ObjectResult}

/-- How a statement is recorded for an entry. -/
def outcome (record : β → α → ObjectResult → ObjectResult)
    (fail : String → ObjectResult → ObjectResult) (statement : Except String (β × σ)) (entry : α) :
    ObjectResult → ObjectResult :=
  match statement with
  | .ok (answers, _) => record answers entry
  | .error error => fail (databaseError error)

theorem writeBatch_getElem? (index : Nat) :
    (writeBatch indices record fail entries statement state results).2[index]? =
      results[index]?.map
        (recordAll (outcome record fail statement) (touching indices index entries)) := by
  unfold writeBatch
  split
  next empty =>
    rw [List.isEmpty_iff.mp empty]
    cases results[index]? <;> rfl
  next =>
    cases statement with
    | ok answered => exact recordEach_getElem? entries results index
    | error error => exact recordEach_getElem? entries results index

/-- What two runs record at an index, if the statements end alike and answer alike. -/
theorem writeBatch_results_alike {index : Nat}
    (same : touching indices index entries = touching indices index entries')
    (alike : touching indices index entries ≠ [] → failure statement = failure statement')
    (answers : ∀ answered answered', statement = .ok answered → statement' = .ok answered' →
      ∀ entry ∈ touching indices index entries,
        record answered.1 entry = record answered'.1 entry)
    (before : results[index]? = results'[index]?) :
    (writeBatch indices record fail entries statement state results).2[index]? =
      (writeBatch indices record fail entries' statement' state' results').2[index]? := by
  rw [writeBatch_getElem?, writeBatch_getElem?, before, ← same]
  congr 1
  apply recordAll_congr
  intro entry member
  have sameFailure := alike (List.ne_nil_of_mem member)
  cases statement with
  | ok answered =>
    cases statement' with
    | ok answered' => exact answers answered answered' rfl rfl entry member
    | error error => cases sameFailure
  | error error =>
    cases statement' with
    | ok answered' => cases sameFailure
    | error error' =>
      cases sameFailure
      rfl

/-- The states two runs leave.  A statement that carries no entry of the scope may end
differently in the two runs; it changes nothing in the scope. -/
theorem writeBatch_states_alike {agree : σ → σ → Prop} {carries : Prop}
    (symm : ∀ a b, agree a b → agree b a) (trans : ∀ a b c, agree a b → agree b c → agree a c)
    (nonempty : carries → entries ≠ []) (nonempty' : carries → entries' ≠ [])
    (alike : carries → failure statement = failure statement') (before : agree state state')
    (both : ∀ answered answered', statement = .ok answered → statement' = .ok answered' →
      agree answered.2 answered'.2)
    (own : ¬ carries → ∀ answered, statement = .ok answered → agree answered.2 state)
    (own' : ¬ carries → ∀ answered', statement' = .ok answered' → agree answered'.2 state') :
    agree (writeBatch indices record fail entries statement state results).1
      (writeBatch indices record fail entries' statement' state' results').1 := by
  have runs : ∀ {entries : List α} {statement : Except String (β × σ)} {state : σ}
      {results : List ObjectResult},
      (writeBatch indices record fail entries statement state results).1 = state ∨
        ∃ answered, statement = .ok answered ∧
          (writeBatch indices record fail entries statement state results).1 = answered.2 := by
    intro entries statement state results
    unfold writeBatch
    split
    · exact .inl rfl
    · cases statement with
      | ok answered => exact .inr ⟨answered, rfl, rfl⟩
      | error error => exact .inl rfl
  by_cases isCarried : carries
  · have sameFailure := alike isCarried
    have ne := nonempty isCarried
    have ne' := nonempty' isCarried
    unfold writeBatch
    rw [if_neg (by simpa using ne), if_neg (by simpa using ne')]
    cases statement with
    | ok answered =>
      cases statement' with
      | ok answered' => exact both answered answered' rfl rfl
      | error error => cases sameFailure
    | error error =>
      cases statement' with
      | ok answered' => cases sameFailure
      | error error' => exact before
  · -- Neither statement reaches into the scope, whether it takes effect or not.
    have left : agree (writeBatch indices record fail entries statement state results).1 state := by
      rcases @runs entries statement state results with same | ⟨answered, ran, same⟩
      · rw [same]
        exact trans _ _ _ before (symm _ _ before)
      · rw [same]
        exact own isCarried answered ran
    have right :
        agree (writeBatch indices record fail entries' statement' state' results').1 state' := by
      rcases @runs entries' statement' state' results' with same | ⟨answered, ran, same⟩
      · rw [same]
        exact trans _ _ _ (symm _ _ before) before
      · rw [same]
        exact own' isCarried answered ran
    exact trans _ _ _ left (trans _ _ _ before (symm _ _ right))

end Stage

/-! ## Lists of indexed objects -/

section Items

variable {α κ : Type} {other : Nat → Bool} {scope : κ → Prop} {key : α → κ}
  {items items' : List (Indexed α)}

/-- Two lists with the same objects of other items; the keys of these are the ones in the scope. -/
structure ItemsAlike (other : Nat → Bool) (scope : κ → Prop) (key : α → κ)
    (items items' : List (Indexed α)) : Prop where
  same : (items.filter fun item => other item.index) = items'.filter fun item => other item.index
  inside : ∀ item ∈ items, scope (key item.value) ↔ other item.index = true
  inside' : ∀ item ∈ items', scope (key item.value) ↔ other item.index = true

namespace ItemsAlike

theorem symm (alike : ItemsAlike other scope key items items') :
    ItemsAlike other scope key items' items :=
  ⟨alike.same.symm, alike.inside', alike.inside⟩

/-- Only other items are looked at, in both lists. -/
theorem filter_eq (alike : ItemsAlike other scope key items items') {keep : Indexed α → Bool}
    (isOther : ∀ item ∈ items, keep item = true → other item.index = true)
    (isOther' : ∀ item ∈ items', keep item = true → other item.index = true) :
    items.filter keep = items'.filter keep := by
  have half : ∀ items : List (Indexed α),
      (∀ item ∈ items, keep item = true → other item.index = true) →
      items.filter keep = (items.filter fun item => other item.index).filter keep := by
    intro items isOther
    rw [List.filter_filter]
    apply List.filter_congr
    intro item member
    cases kept : keep item with
    | false => simp
    | true => simp [isOther item member kept]
  rw [half items isOther, half items' isOther', alike.same]

theorem touching_eq (alike : ItemsAlike other scope key items items') {index : Nat}
    (isOther : other index = true) :
    touching indexOf index items = touching indexOf index items' := by
  have asFilter : ∀ items : List (Indexed α),
      touching indexOf index items = items.filter fun item => item.index == index := by
    intro items
    induction items with
    | nil => rfl
    | cons item items inductionHypothesis =>
      rw [touching_cons, inductionHypothesis]
      by_cases same : item.index = index <;> simp [touching, indexOf, same]
  have ofIndex : ∀ item : Indexed α, (item.index == index) = true → other item.index = true := by
    intro item same
    rw [beq_iff_eq.mp same]
    exact isOther
  rw [asFilter, asFilter]
  exact alike.filter_eq (fun item _ => ofIndex item) fun item _ => ofIndex item

theorem mem_iff (alike : ItemsAlike other scope key items items') {item : Indexed α}
    (isOther : other item.index = true) : item ∈ items ↔ item ∈ items' := by
  have sameFilters : item ∈ (items.filter fun item => other item.index) ↔
      item ∈ items'.filter fun item => other item.index := by
    rw [alike.same]
  simpa [isOther] using sameFilters

theorem values_agreeOn (alike : ItemsAlike other scope key items items') :
    AgreeOn (fun value => scope (key value)) (items.map Indexed.value)
      (items'.map Indexed.value) := by
  intro value inside
  simp only [List.mem_map]
  constructor
  · intro ⟨item, member, isValue⟩
    subst isValue
    exact ⟨item, (alike.mem_iff ((alike.inside item member).mp inside)).mp member, rfl⟩
  · intro ⟨item, member, isValue⟩
    subst isValue
    exact ⟨item, (alike.mem_iff ((alike.inside' item member).mp inside)).mpr member, rfl⟩

end ItemsAlike

/-- Some object of the list belongs to another item. -/
def Carries (other : Nat → Bool) (items : List (Indexed α)) : Prop :=
  ∃ item ∈ items, other item.index = true

end Items

end TweetDb.Submit
