import ProfileDrift.Proofs.LoneCheck

namespace ProfileDrift

/-- What is asked of a cache: the listing of a version, or the profile under a reference. -/
inductive CacheRequest where
  | listing (version : VersionId)
  | profile (reference : ProfileRef)
  deriving DecidableEq, Repr

namespace CacheRequest

variable {α ε β : Type}

/-- The cache that a request leaves. -/
def run (store : Store α) (cache : Cache α) : CacheRequest → Cache α
  | listing version => ((Cache.listing store version).through cache).2
  | profile reference => ((Cache.load store reference).through cache).2

def isAnswered (store : Store α) : CacheRequest → Bool
  | listing version => (store.list version).isOk
  | profile reference => (store.load reference).isOk

/-- What is asked after an answer. A fault is the end. -/
def after (answer : Except ε β) (next : β → List CacheRequest) : List CacheRequest :=
  match answer with
  | .ok value => next value
  | .error _ => []

theorem after_nil (answer : Except ε β) : after answer (fun _ => []) = [] := by
  cases answer <;> rfl

end CacheRequest

/-- The profiles that are asked for when references are loaded in their order, up to the
first that fails. -/
def Store.loadRequests {α : Type} (store : Store α) : List ProfileRef → List CacheRequest
  | [] => []
  | reference :: rest =>
    .profile reference :: CacheRequest.after (store.load reference) fun _ => loadRequests store rest

/-- What is asked for to read all profiles of a version. -/
def Store.requests {α : Type} (store : Store α) (version : VersionId) : List CacheRequest :=
  .listing version :: CacheRequest.after (store.list version) store.loadRequests

namespace Baseline

variable {α : Type} (configuration : Configuration) (history : History) (store : Store α)

/-- What a search asks for from a frontier on: all profiles of each version that it
inspects, until a match or a fault ends it. -/
def searchRequests : Frontier → List CacheRequest
  | ⟨_, []⟩ => []
  | ⟨seen, version :: rest⟩ =>
    store.requests version ++
      CacheRequest.after (store.profilesOf version) fun profiles =>
        match matching? configuration profiles with
        | some _ => []
        | none =>
          match _ : history.onward version with
          | .error _ => []
          | .ok parents => searchRequests (Frontier.meetAll ⟨seen, rest⟩ parents)
termination_by frontier => (⟨frontier⟩ : Frontier.Within history)
decreasing_by
  have answered : history.onward version = .ok parents := ‹_›
  rcases History.onward_eq_ok answered with ⟨_, none⟩ | ⟨_, parentsAnswered⟩
  · rw [none]
    exact .past
  · exact .beyond parentsAnswered

def requests (target : VersionId) : List CacheRequest :=
  CacheRequest.after (history.parents target) fun parents =>
    searchRequests configuration history store ((Frontier.start target).meetAll parents)

end Baseline

namespace Settings

variable {α : Type} [Scalar α] [Tally α] [Hundredths α] (settings : Settings α)
  (history : History) (store : Store α) (version : VersionId)

/-- What the checks of some targets ask for: each searches for a baseline, and the first
that fails is the last. -/
def targetRequests : List (ProfileRef × Profile α) → List CacheRequest
  | [] => []
  | (reference, target) :: rest =>
    Baseline.requests target.configuration history store version ++
      CacheRequest.after (settings.checkProfile history store version reference target).alone
        fun _ => targetRequests rest

def requests : List CacheRequest :=
  store.requests version ++
    CacheRequest.after (store.profilesOf version) (settings.targetRequests history store version)

end Settings

/-- What a call asks of its cache, one after the other. It is told by the history and the
store alone: nothing hangs on what the cache holds. -/
def CacheCall.requests {α : Type} [Scalar α] [Tally α] [Hundredths α] (history : History)
    (store : Store α) : CacheCall α → List CacheRequest
  | profilesOf version => store.requests version
  | load reference => [.profile reference]
  | find configuration target => Baseline.requests configuration history store target
  | checkVersion settings version => settings.requests history store version

namespace Reading

variable {α ε δ β γ : Type}

/-- A reading asks for these and nothing else: it leaves the cache that these requests
leave in turn, and if it succeeds, the store answers them all. -/
def Asks (store : Store α) (reading : Reading α ε β) (requests : List CacheRequest) : Prop :=
  ∀ cache, cache.Faithful store →
    (reading.through cache).2 = requests.foldl (CacheRequest.run store) cache ∧
      ((reading.through cache).1.isOk = true →
        ∀ request ∈ requests, request.isAnswered store = true)

variable {store : Store α}

theorem asks_pure (value : β) : (pure value : Reading α ε β).Asks store [] :=
  fun _ _ => ⟨rfl, fun _ _ member => absurd member List.not_mem_nil⟩

theorem asks_ask (answer : Except (Fault ε) β) : (ask answer : Reading α ε β).Asks store [] :=
  fun _ _ => ⟨rfl, fun _ _ member => absurd member List.not_mem_nil⟩

theorem Asks.mapError {reading : Reading α ε β} {requests : List CacheRequest}
    (change : ε → δ) (asks : reading.Asks store requests) :
    (Reading.mapError change reading).Asks store requests := by
  intro cache faithful
  obtain ⟨left, answered⟩ := asks cache faithful
  rw [through_mapError]
  refine ⟨left, fun succeeded => answered ?_⟩
  cases result : (reading.through cache).1 with
  | ok value => rfl
  | error fault => rw [result] at succeeded; cases succeeded

/-- What follows a reading asks behind it, with the value that it would give with nothing
cached. -/
theorem Asks.bind {first : Reading α ε β} {next : β → Reading α ε γ}
    {requests : List CacheRequest} {later : β → List CacheRequest}
    (settled : first.Settled store) (asks : first.Asks store requests)
    (nextAsks : ∀ value, first.alone = .ok value → (next value).Asks store (later value)) :
    (first >>= next).Asks store (requests ++ CacheRequest.after first.alone later) := by
  intro cache faithful
  obtain ⟨left, answered⟩ := asks cache faithful
  obtain ⟨same, still⟩ := settled cache faithful
  rw [through_bind, List.foldl_append, ← left]
  cases run : first.through cache with
  | mk result after =>
    rw [run] at same still answered
    dsimp only at same still answered
    rw [← same]
    cases result with
    | error fault => exact ⟨rfl, fun succeeded => by cases succeeded⟩
    | ok value =>
      obtain ⟨leftNext, answeredNext⟩ := nextAsks value same.symm after still
      refine ⟨leftNext, fun succeeded request member => ?_⟩
      rcases List.mem_append.mp member with before | behind
      · exact answered rfl request before
      · exact answeredNext succeeded request behind

/-- What asks for nothing more may follow. -/
theorem Asks.bind_last {first : Reading α ε β} {next : β → Reading α ε γ}
    {requests : List CacheRequest} (settled : first.Settled store)
    (asks : first.Asks store requests) (nothing : ∀ value, (next value).Asks store []) :
    (first >>= next).Asks store requests := by
  have whole := asks.bind settled fun value _ => nothing value
  rwa [CacheRequest.after_nil, List.append_nil] at whole

end Reading

namespace Cache

variable {α : Type} (store : Store α)

theorem asks_listing (version : VersionId) :
    (listing store version).Asks store [.listing version] := by
  intro cache faithful
  refine ⟨rfl, fun succeeded request member => ?_⟩
  rw [(listing_settled store version cache faithful).1, alone_listing] at succeeded
  rwa [List.mem_singleton.mp member]

theorem asks_load (reference : ProfileRef) :
    (load store reference).Asks store [.profile reference] := by
  intro cache faithful
  refine ⟨rfl, fun succeeded request member => ?_⟩
  rw [(load_settled store reference cache faithful).1, alone_load] at succeeded
  rwa [List.mem_singleton.mp member]

theorem asks_loadAll (references : List ProfileRef) :
    (loadAll store references).Asks store (store.loadRequests references) := by
  induction references with
  | nil => exact Reading.asks_pure []
  | cons reference rest ih =>
    have whole := (asks_load store reference).bind (load_settled store reference) fun profile _ =>
      ih.bind_last (loadAll_settled store rest) fun others =>
        Reading.asks_pure ((reference, profile) :: others)
    rw [alone_load] at whole
    exact whole

theorem asks_profilesOf (version : VersionId) :
    (profilesOf store version).Asks store (store.requests version) := by
  have whole := (asks_listing store version).bind (listing_settled store version)
    fun references _ => asks_loadAll store references
  rw [alone_listing] at whole
  exact whole

end Cache

namespace Baseline

variable {α : Type} (configuration : Configuration) (history : History) (store : Store α)

/-- By the rounds of the search: a round asks for one version, and the rounds behind it ask
for theirs if it neither matches nor fails. -/
theorem asks_search (frontier : Frontier) (visited : Nat) :
    (search configuration history store frontier visited).Asks store
      (searchRequests configuration history store frontier) := by
  induction frontier, visited using search_induction history with
  | exhausted seen visited =>
    rw [search, searchRequests]
    exact Reading.asks_pure _
  | inspected seen version rest visited ih =>
    rw [search_cons, searchRequests, ← Cache.alone_profilesOf]
    refine (Cache.asks_profilesOf store version).bind (Cache.profilesOf_settled store version)
      fun profiles _ => ?_
    cases matching? configuration profiles with
    | some first => exact Reading.asks_pure _
    | none =>
      have whole := (Reading.asks_ask (history.onward version)).bind
        (Reading.settled_ask store _) ih
      dsimp only
      split
      · rename_i fault answered
        rwa [answered] at whole ⊢
      · rename_i parents answered
        rwa [answered] at whole ⊢

theorem asks_find (target : VersionId) :
    (find configuration history store target).Asks store
      (requests configuration history store target) :=
  (Reading.asks_ask (history.parents target)).bind (Reading.settled_ask store _) fun _ _ =>
    asks_search configuration history store _ _

end Baseline

namespace Settings

variable {α : Type} [Scalar α] [Tally α] [Hundredths α] (settings : Settings α)
  (history : History) (store : Store α) (version : VersionId)

theorem asks_checkProfile (reference : ProfileRef) (target : Profile α) :
    (settings.checkProfile history store version reference target).Asks store
      (Baseline.requests target.configuration history store version) := by
  refine ((Baseline.asks_find target.configuration history store version).mapError
    CheckError.store).bind_last ((Baseline.find_settled target.configuration history store
      version).mapError CheckError.store) fun pairing => ?_
  cases pairing with
  | notFound visited => exact Reading.asks_pure _
  | found baselineVersion baseline profile visited =>
    exact ((Reading.asks_ask _).mapError CheckError.settings).bind_last
      ((Reading.settled_ask store _).mapError CheckError.settings) fun _ => Reading.asks_pure _

theorem asks_checkProfiles (targets : List (ProfileRef × Profile α)) :
    (settings.checkProfiles history store version targets).Asks store
      (settings.targetRequests history store version targets) := by
  induction targets with
  | nil => exact Reading.asks_pure []
  | cons first rest ih =>
    exact (settings.asks_checkProfile history store version first.1 first.2).bind
      (settings.checkProfile_settled history store version first.1 first.2) fun verdict _ =>
        ih.bind_last (settings.checkProfiles_settled history store version rest) fun _ =>
          Reading.asks_pure _

theorem asks_checkVersion :
    (settings.checkVersion history store version).Asks store
      (settings.requests history store version) := by
  have whole := ((Cache.asks_profilesOf store version).mapError CheckError.store).bind
    ((Cache.profilesOf_settled store version).mapError CheckError.store) fun targets _ =>
      (settings.asks_checkProfiles history store version targets).bind_last
        (settings.checkProfiles_settled history store version targets) fun verdicts =>
          Reading.asks_pure (VersionCheck.ofVerdicts version verdicts)
  rw [Reading.alone_mapError, Cache.alone_profilesOf] at whole
  rw [requests]
  cases read : store.profilesOf version with
  | error fault => rwa [read] at whole
  | ok targets => rwa [read] at whole

end Settings

namespace CacheCall

variable {α : Type} [Scalar α] [Tally α] [Hundredths α]

/-- Does a call succeed that starts with this cache? -/
def succeeds (history : History) (store : Store α) (cache : Cache α) : CacheCall α → Bool
  | profilesOf version => ((Cache.profilesOf store version).through cache).1.isOk
  | load reference => ((Cache.load store reference).through cache).1.isOk
  | find configuration target =>
    ((Baseline.find configuration history store target).through cache).1.isOk
  | checkVersion settings version =>
    ((settings.checkVersion history store version).through cache).1.isOk

/-- A call does to the cache what its requests do, and a request that the store does not
answer makes the call fail. -/
theorem run_eq (history : History) {store : Store α} {cache : Cache α}
    (faithful : cache.Faithful store) (call : CacheCall α) :
    call.run history store cache =
        (call.requests history store).foldl (CacheRequest.run store) cache ∧
      (call.succeeds history store cache = true →
        ∀ request ∈ call.requests history store, request.isAnswered store = true) := by
  cases call with
  | profilesOf version => exact Cache.asks_profilesOf store version cache faithful
  | load reference => exact Cache.asks_load store reference cache faithful
  | find configuration target =>
    exact Baseline.asks_find configuration history store target cache faithful
  | checkVersion settings version =>
    exact settings.asks_checkVersion history store version cache faithful

end CacheCall

end ProfileDrift
