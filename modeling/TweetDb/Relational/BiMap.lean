import Mathlib.Logic.Function.Basic

/-! # Two-way maps over a growing relation

A cache of a one-to-one relation, with one map for each direction.  Entries of
the relation may be inserted in any order and any number of times; as long as
only entries of the relation are inserted, the two maps stay inverse to each
other.
-/

namespace Relational

universe u v

variable {κ : Type u} {ι : Type v}

structure BiMap (κ : Type u) (ι : Type v) where
  byKey : κ → Option ι
  byId : ι → Option κ

/-- A relation by which neither side has two partners. -/
structure OneToOne (related : κ → ι → Prop) : Prop where
  id : ∀ {key id id'}, related key id → related key id' → id = id'
  key : ∀ {key key' id}, related key id → related key' id → key = key'

namespace BiMap

def empty : BiMap κ ι := ⟨fun _ => none, fun _ => none⟩

/-- The two maps are inverse to each other and hold entries of the relation only. -/
structure Faithful (map : BiMap κ ι) (related : κ → ι → Prop) : Prop where
  inverse : ∀ key id, map.byKey key = some id ↔ map.byId id = some key
  related : ∀ key id, map.byKey key = some id → related key id

variable {map : BiMap κ ι} {related related' : κ → ι → Prop}

theorem faithful_empty (related : κ → ι → Prop) : (empty : BiMap κ ι).Faithful related :=
  ⟨fun _ _ => by simp [empty], nofun⟩

/-- The relation may grow. -/
theorem Faithful.mono (faithful : map.Faithful related)
    (grows : ∀ key id, related key id → related' key id) : map.Faithful related' :=
  ⟨faithful.inverse, fun key id cached => grows key id (faithful.related key id cached)⟩

variable [DecidableEq κ] [DecidableEq ι]

def insert (map : BiMap κ ι) (key : κ) (id : ι) : BiMap κ ι where
  byKey := Function.update map.byKey key (some id)
  byId := Function.update map.byId id (some key)

theorem byKey_insert_self (map : BiMap κ ι) (key : κ) (id : ι) :
    (map.insert key id).byKey key = some id :=
  Function.update_self _ _ _

/-- What is inserted is an entry of the relation, so it replaces nothing but itself. -/
theorem Faithful.insert (faithful : map.Faithful related) (oneToOne : OneToOne related) {key : κ}
    {id : ι} (isRelated : related key id) : (map.insert key id).Faithful related := by
  constructor
  · intro key' id'
    simp only [BiMap.insert]
    by_cases sameKey : key' = key
    · subst sameKey
      by_cases sameId : id' = id
      · subst sameId
        simp
      · -- Neither map has the inserted key beside another id.
        have notCached : map.byId id' ≠ some key' := by
          intro cached
          have other := faithful.related key' id' ((faithful.inverse key' id').mpr cached)
          exact sameId (oneToOne.id other isRelated)
        simp [Function.update_of_ne sameId, notCached, Ne.symm sameId]
    · by_cases sameId : id' = id
      · subst sameId
        have notCached : map.byKey key' ≠ some id' := by
          intro cached
          exact sameKey (oneToOne.key (faithful.related key' id' cached) isRelated)
        simp [Function.update_of_ne sameKey, notCached, Ne.symm sameKey]
      · rw [Function.update_of_ne sameKey, Function.update_of_ne sameId]
        exact faithful.inverse key' id'
  · intro key' id' cached
    by_cases sameKey : key' = key
    · subst sameKey
      rw [byKey_insert_self, Option.some.injEq] at cached
      exact cached ▸ isRelated
    · simp only [BiMap.insert, Function.update_of_ne sameKey] at cached
      exact faithful.related key' id' cached

/-- A cached entry survives the insertion of entries of the relation. -/
theorem Faithful.byKey_insert (faithful : map.Faithful related) (oneToOne : OneToOne related)
    {key key' : κ} {id id' : ι} (isRelated : related key id) (cached : map.byKey key' = some id') :
    (map.insert key id).byKey key' = some id' := by
  by_cases same : key' = key
  · subst same
    rw [byKey_insert_self, Option.some.injEq]
    exact oneToOne.id isRelated (faithful.related key' id' cached)
  · simp only [BiMap.insert, Function.update_of_ne same]
    exact cached

end BiMap

end Relational
