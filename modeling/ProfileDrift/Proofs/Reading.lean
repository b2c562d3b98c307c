import ProfileDrift.Baseline.Cache

namespace ProfileDrift

/-- Everything that a cache holds was answered by the store. -/
structure Cache.Faithful {α : Type} (store : Store α) (cache : Cache α) : Prop where
  listings : ∀ version references, (version, references) ∈ cache.listings →
    store.list version = .ok references
  profiles : ∀ reference profile, (reference, profile) ∈ cache.profiles →
    store.load reference = .ok profile

theorem Cache.empty_faithful {α : Type} (store : Store α) : (Cache.empty : Cache α).Faithful store :=
  ⟨fun _ _ member => (List.not_mem_nil member).elim, fun _ _ member => (List.not_mem_nil member).elim⟩

namespace Reading

variable {α ε δ β γ : Type}

/-- What a reading gives when it starts with a cache, and the cache that it leaves. -/
def through (reading : Reading α ε β) (cache : Cache α) : Except (Fault ε) β × Cache α :=
  reading.run.run cache

/-- What a reading gives when it starts with nothing cached. -/
def alone (reading : Reading α ε β) : Except (Fault ε) β := (reading.through .empty).1

theorem through_bind (first : Reading α ε β) (next : β → Reading α ε γ) (cache : Cache α) :
    (first >>= next).through cache =
      match first.through cache with
      | (.ok value, later) => (next value).through later
      | (.error fault, later) => (.error fault, later) := by
  unfold through
  simp only [ExceptT.run_bind, StateT.run_bind]
  generalize StateT.run (ExceptT.run first) cache = outcome
  obtain ⟨result, later⟩ := outcome
  cases result <;> rfl

theorem through_mapError (change : ε → δ) (reading : Reading α ε β) (cache : Cache α) :
    (mapError change reading).through cache =
      ((reading.through cache).1.mapError (Fault.mapError change), (reading.through cache).2) :=
  rfl

theorem alone_pure (value : β) : (pure value : Reading α ε β).alone = .ok value := rfl

theorem ask_ok_bind (value : β) (next : β → Reading α ε γ) :
    (ask (.ok value) : Reading α ε β) >>= next = next value := rfl

theorem alone_mapError (change : ε → δ) (reading : Reading α ε β) :
    (mapError change reading).alone = reading.alone.mapError (Fault.mapError change) := rfl

/-- A reading does not notice what has been cached, as long as the store would
have answered the same, and it caches nothing else itself. It need not succeed:
the cache that a failed reading leaves is faithful as well. -/
def Settled (store : Store α) (reading : Reading α ε β) : Prop :=
  ∀ cache, cache.Faithful store →
    (reading.through cache).1 = reading.alone ∧ (reading.through cache).2.Faithful store

theorem settled_pure (store : Store α) (value : β) :
    (pure value : Reading α ε β).Settled store :=
  fun _ faithful => ⟨rfl, faithful⟩

theorem settled_ask (store : Store α) (answer : Except (Fault ε) β) :
    (ask answer : Reading α ε β).Settled store :=
  fun _ faithful => ⟨rfl, faithful⟩

theorem Settled.mapError {store : Store α} {reading : Reading α ε β} (change : ε → δ)
    (settled : reading.Settled store) : (Reading.mapError change reading).Settled store := by
  intro cache faithful
  obtain ⟨same, later⟩ := settled cache faithful
  rw [through_mapError, alone_mapError, same]
  exact ⟨rfl, later⟩

/-- What follows a reading starts with the cache that it leaves, and gives what it
would give with nothing cached. -/
theorem Settled.alone_bind {store : Store α} {first : Reading α ε β} {next : β → Reading α ε γ}
    (settled : first.Settled store)
    (nextSettled : ∀ value, first.alone = .ok value → (next value).Settled store) :
    (first >>= next).alone = first.alone >>= fun value => (next value).alone := by
  have later := (settled .empty (Cache.empty_faithful store)).2
  have unfolded : (first >>= next).alone = ((first >>= next).through .empty).1 := rfl
  rw [unfolded, through_bind]
  cases run : first.through .empty with
  | mk result left =>
    have given : first.alone = result := congrArg Prod.fst run
    rw [run] at later
    rw [given]
    cases result with
    | error fault => rfl
    | ok value => exact (nextSettled value given left later).1

theorem Settled.bind {store : Store α} {first : Reading α ε β} {next : β → Reading α ε γ}
    (settled : first.Settled store)
    (nextSettled : ∀ value, first.alone = .ok value → (next value).Settled store) :
    (first >>= next).Settled store := by
  intro cache faithful
  rw [settled.alone_bind nextSettled, through_bind]
  obtain ⟨same, later⟩ := settled cache faithful
  cases run : first.through cache with
  | mk result left =>
    rw [run] at same later
    rw [← same]
    cases result with
    | error fault => exact ⟨rfl, later⟩
    | ok value => exact nextSettled value same.symm left later

end Reading

/-- A version is listed and every reference that it lists is loaded, without a cache. -/
def Store.profilesOf {α : Type} (store : Store α) (version : VersionId) :
    Answer (List (ProfileRef × Profile α)) := do
  (← store.list version).mapM fun reference => return (reference, ← store.load reference)

namespace Cache

variable {α : Type} (store : Store α)

theorem alone_listing (version : VersionId) : (listing store version).alone = store.list version := by
  change (listing store version .empty).1 = _
  simp only [listing, empty, List.lookup_nil]
  cases store.list version <;> rfl

/-- A listing that was read before is the one that the store would give now, and a
listing read now is remembered only if the store gave it. -/
theorem listing_settled (version : VersionId) : (listing store version).Settled store := by
  intro cache faithful
  rw [alone_listing]
  change (listing store version cache).1 = _ ∧ (listing store version cache).2.Faithful store
  unfold listing
  cases known : cache.listings.lookup version with
  | some references =>
    exact ⟨(faithful.listings _ _ (mem_of_lookup known)).symm, faithful⟩
  | none =>
    cases answered : store.list version with
    | error fault => exact ⟨rfl, faithful.listings, faithful.profiles⟩
    | ok references =>
      refine ⟨rfl, fun other found member => ?_, faithful.profiles⟩
      rcases List.mem_cons.mp member with here | there
      · cases here
        exact answered
      · exact faithful.listings other found there

theorem alone_load (reference : ProfileRef) : (load store reference).alone = store.load reference := by
  change (load store reference .empty).1 = _
  simp only [load, empty, List.lookup_nil]
  cases store.load reference <;> rfl

theorem load_settled (reference : ProfileRef) : (load store reference).Settled store := by
  intro cache faithful
  rw [alone_load]
  change (load store reference cache).1 = _ ∧ (load store reference cache).2.Faithful store
  unfold load
  cases known : cache.profiles.lookup reference with
  | some profile =>
    exact ⟨(faithful.profiles _ _ (mem_of_lookup known)).symm, faithful.listings,
      faithful.profiles⟩
  | none =>
    cases answered : store.load reference with
    | error fault => exact ⟨rfl, faithful.listings, faithful.profiles⟩
    | ok profile =>
      refine ⟨rfl, faithful.listings, fun other found member => ?_⟩
      rcases List.mem_cons.mp member with here | there
      · cases here
        exact answered
      · exact faithful.profiles other found there

/-- Loading stops at the first reference that fails. The profiles loaded before it
stay cached and do no harm, since each is what the store would give again. -/
theorem loadAll_settled (references : List ProfileRef) : (loadAll store references).Settled store := by
  induction references with
  | nil => exact Reading.settled_pure store []
  | cons reference rest ih =>
    exact (load_settled store reference).bind fun profile _ =>
      ih.bind fun others _ => Reading.settled_pure store _

theorem alone_loadAll (references : List ProfileRef) :
    (loadAll store references).alone =
      references.mapM fun reference => return (reference, ← store.load reference) := by
  induction references with
  | nil => rfl
  | cons reference rest ih =>
    have restSettled := loadAll_settled store rest
    rw [loadAll, (load_settled store reference).alone_bind fun profile _ =>
      restSettled.bind fun others _ => Reading.settled_pure store _, alone_load, List.mapM_cons]
    cases store.load reference with
    | error fault => rfl
    | ok profile =>
      change (loadAll store rest >>= fun others => pure ((reference, profile) :: others)).alone = _
      rw [restSettled.alone_bind fun others _ => Reading.settled_pure store _, ih]
      rfl

theorem profilesOf_settled (version : VersionId) : (profilesOf store version).Settled store :=
  (listing_settled store version).bind fun references _ => loadAll_settled store references

theorem alone_profilesOf (version : VersionId) :
    (profilesOf store version).alone = store.profilesOf version := by
  rw [profilesOf, (listing_settled store version).alone_bind fun references _ =>
    loadAll_settled store references, alone_listing]
  simp only [alone_loadAll]
  rfl

end Cache

end ProfileDrift
