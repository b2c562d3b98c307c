import ProfileDrift.Check.Version
import ProfileDrift.Proofs.SettledSearch

namespace ProfileDrift

namespace Settings

variable {α : Type} [Scalar α] [Tally α] [Hundredths α] (settings : Settings α)
  (history : History) (store : Store α) (version : VersionId)

theorem checkProfile_settled (reference : ProfileRef) (target : Profile α) :
    (settings.checkProfile history store version reference target).Settled store := by
  refine ((Baseline.find_settled target.configuration history store version).mapError
    CheckError.store).bind fun pairing _ => ?_
  cases pairing with
  | notFound visited => exact Reading.settled_pure store _
  | found baselineVersion baseline profile visited =>
    exact ((Reading.settled_ask store _).mapError CheckError.settings).bind fun _ _ =>
      Reading.settled_pure store _

theorem checkProfiles_settled (targets : List (ProfileRef × Profile α)) :
    (settings.checkProfiles history store version targets).Settled store := by
  induction targets with
  | nil => exact Reading.settled_pure store []
  | cons first rest ih =>
    exact (settings.checkProfile_settled history store version first.1 first.2).bind
      fun verdict _ => ih.bind fun _ _ => Reading.settled_pure store _

theorem checkVersion_settled : (settings.checkVersion history store version).Settled store :=
  ((Cache.profilesOf_settled store version).mapError CheckError.store).bind fun targets _ =>
    (settings.checkProfiles_settled history store version targets).bind fun _ _ =>
      Reading.settled_pure store _

end Settings

/-- A call that reads a store through a cache. -/
inductive CacheCall (α : Type) where
  | profilesOf (version : VersionId)
  | load (reference : ProfileRef)
  | find (configuration : Configuration) (target : VersionId)
  | checkVersion (settings : Settings α) (version : VersionId)

variable {α : Type} [Scalar α] [Tally α] [Hundredths α]

/-- The cache that a call leaves, whether it succeeds, fails or panics. -/
def CacheCall.run (history : History) (store : Store α) (cache : Cache α) :
    CacheCall α → Cache α
  | profilesOf version => ((Cache.profilesOf store version).through cache).2
  | load reference => ((Cache.load store reference).through cache).2
  | find configuration target =>
    ((Baseline.find configuration history store target).through cache).2
  | checkVersion settings version =>
    ((settings.checkVersion history store version).through cache).2

/-- The cache after calls in turn, which begin with nothing cached. -/
def Cache.after (history : History) (store : Store α) (calls : List (CacheCall α)) : Cache α :=
  calls.foldl (CacheCall.run history store) .empty

theorem CacheCall.run_faithful (history : History) {store : Store α} {cache : Cache α}
    (faithful : cache.Faithful store) (call : CacheCall α) :
    (call.run history store cache).Faithful store := by
  cases call with
  | profilesOf version => exact (Cache.profilesOf_settled store version cache faithful).2
  | load reference => exact (Cache.load_settled store reference cache faithful).2
  | find configuration target =>
    exact (Baseline.find_settled configuration history store target cache faithful).2
  | checkVersion settings version =>
    exact (settings.checkVersion_settled history store version cache faithful).2

theorem Cache.after_faithful (history : History) (store : Store α) (calls : List (CacheCall α)) :
    (Cache.after history store calls).Faithful store :=
  List.foldlRecOn calls (CacheCall.run history store) (Cache.empty_faithful store)
    fun _ faithful call _ => call.run_faithful history faithful

/-- No call shows whether calls were made before it: after any calls a cache holds what
the store answers, and every reading gives what it gives with nothing cached. -/
theorem Cache.after_transparent (history : History) (store : Store α)
    (calls : List (CacheCall α)) :
    let cache := Cache.after history store calls
    (∀ version references, (version, references) ∈ cache.listings →
      store.list version = .ok references) ∧
    (∀ reference profile, (reference, profile) ∈ cache.profiles →
      store.load reference = .ok profile) ∧
    (∀ version, ((Cache.profilesOf store version).through cache).1 =
      ((Cache.profilesOf store version).through .empty).1) ∧
    (∀ reference, ((Cache.load store reference).through cache).1 =
      ((Cache.load store reference).through .empty).1) ∧
    (∀ configuration target,
      ((Baseline.find configuration history store target).through cache).1 =
        ((Baseline.find configuration history store target).through .empty).1) ∧
    ∀ (settings : Settings α) version,
      ((settings.checkVersion history store version).through cache).1 =
        ((settings.checkVersion history store version).through .empty).1 := by
  intro cache
  have faithful : cache.Faithful store := Cache.after_faithful history store calls
  refine ⟨faithful.listings, faithful.profiles, ?_, ?_, ?_, ?_⟩
  · intro version
    exact (Cache.profilesOf_settled store version cache faithful).1
  · intro reference
    exact (Cache.load_settled store reference cache faithful).1
  · intro configuration target
    exact (Baseline.find_settled configuration history store target cache faithful).1
  · intro settings version
    exact (settings.checkVersion_settled history store version cache faithful).1

end ProfileDrift
