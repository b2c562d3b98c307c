import ProfileDrift.Store.Basic

namespace ProfileDrift

/-- A call that was made to a store, and whether it was answered. -/
inductive StoreCall where
  | list (version : VersionId) (answered : Bool)
  | load (reference : ProfileRef) (answered : Bool)
  deriving DecidableEq, Repr

/-- The listings and profiles that have been read from a store so far, how many
reads of profiles were met from here and how many were not, and the calls that
were made to the store, the latest first. -/
structure Cache (α : Type) where
  listings : List (VersionId × List ProfileRef)
  profiles : List (ProfileRef × Profile α)
  hits : Nat
  misses : Nat
  calls : List StoreCall

namespace Cache

def empty {α : Type} : Cache α := ⟨[], [], 0, 0, []⟩

end Cache

/-- A computation that reads a store through a cache. It may fail, and what it
has read by then stays in the cache. -/
abbrev Reading (α ε β : Type) := ExceptT (Fault ε) (StateM (Cache α)) β

namespace Reading

variable {α ε δ β : Type}

/-- The same computation with its errors made part of others. -/
def mapError (change : ε → δ) (reading : Reading α ε β) : Reading α δ β :=
  ExceptT.adapt (Fault.mapError change) reading

def ask (answer : Except (Fault ε) β) : Reading α ε β := ExceptT.mk (pure answer)

/-- Lets a computation that cannot fail end a computation that can. -/
def ofExcept (result : Except ε β) : Reading α ε β :=
  ask (match result with
    | .ok value => .ok value
    | .error error => .error (.failure error))

end Reading

namespace Cache

variable {α : Type}

/-- The references listed for a version. A listing is read once; a failed read is
not remembered. -/
def listing (store : Store α) (version : VersionId) : Reading α StoreError (List ProfileRef) :=
  fun cache =>
    match cache.listings.lookup version with
    | some references => (.ok references, cache)
    | none =>
      match store.list version with
      | .ok references =>
        (.ok references,
          { cache with
            listings := (version, references) :: cache.listings
            calls := .list version true :: cache.calls })
      | .error fault => (.error fault, { cache with calls := .list version false :: cache.calls })

/-- The profile under a reference. It is read once; a failed read is not
remembered and counts as a miss. -/
def load (store : Store α) (reference : ProfileRef) : Reading α StoreError (Profile α) :=
  fun cache =>
    match cache.profiles.lookup reference with
    | some profile => (.ok profile, { cache with hits := cache.hits + 1 })
    | none =>
      match store.load reference with
      | .ok profile =>
        (.ok profile,
          { cache with
            profiles := (reference, profile) :: cache.profiles
            misses := cache.misses + 1
            calls := .load reference true :: cache.calls })
      | .error fault =>
        (.error fault,
          { cache with
            misses := cache.misses + 1
            calls := .load reference false :: cache.calls })

/-- Loads references in their order, up to the first that fails. -/
def loadAll (store : Store α) :
    List ProfileRef → Reading α StoreError (List (ProfileRef × Profile α))
  | [] => pure []
  | reference :: rest => do
    let profile ← load store reference
    let others ← loadAll store rest
    return (reference, profile) :: others

def profilesOf (store : Store α) (version : VersionId) :
    Reading α StoreError (List (ProfileRef × Profile α)) := do
  loadAll store (← listing store version)

end Cache

end ProfileDrift
