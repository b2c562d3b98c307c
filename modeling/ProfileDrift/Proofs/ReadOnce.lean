import Mathlib.Data.Finset.Card
import ProfileDrift.Decimal.Notation
import ProfileDrift.Proofs.NearestBaseline
import ProfileDrift.Proofs.RequestedReads
import ProfileDrift.Scalar.Blocks

namespace ProfileDrift

namespace StoreCall

/-- The version that a call has listed, if it was answered. -/
def listed? : StoreCall → Option VersionId
  | list version true => some version
  | _ => none

/-- The reference that a call has loaded, if it was answered. -/
def loaded? : StoreCall → Option ProfileRef
  | load reference true => some reference
  | _ => none

def isLoad : StoreCall → Bool
  | load _ _ => true
  | list _ _ => false

def isFailedLoad : StoreCall → Bool
  | load _ answered => !answered
  | list _ _ => false

theorem count_list (calls : List StoreCall) (version : VersionId) :
    calls.count (list version true) = (calls.filterMap listed?).count version := by
  rw [List.count_filterMap]
  refine List.countP_congr fun call _ => ?_
  rcases call with ⟨other, _ | _⟩ | _ <;> simp [listed?]

theorem count_load (calls : List StoreCall) (reference : ProfileRef) :
    calls.count (load reference true) = (calls.filterMap loaded?).count reference := by
  rw [List.count_filterMap]
  refine List.countP_congr fun call _ => ?_
  rcases call with _ | ⟨other, _ | _⟩ <;> simp [loaded?]

/-- A load is answered or fails. -/
theorem countP_isLoad (calls : List StoreCall) :
    calls.countP isLoad = (calls.filterMap loaded?).length + calls.countP isFailedLoad := by
  induction calls with
  | nil => rfl
  | cons call rest ih =>
    rw [List.countP_cons, List.countP_cons, List.filterMap_cons, ih]
    rcases call with _ | ⟨_, _ | _⟩ <;> simp [isLoad, isFailedLoad, loaded?] <;> omega

end StoreCall

variable {α : Type}

/-- All that a request can do to a cache: it is met from what the cache holds, or it makes
one call to the store and remembers the answer, unless the call fails. -/
inductive CacheRequest.Step (store : Store α) (cache : Cache α) :
    CacheRequest → Cache α → Prop
  | listingKept {version references} :
      (version, references) ∈ cache.listings →
      CacheRequest.Step store cache (.listing version) cache
  | listingRead {version references} :
      version ∉ cache.listings.map (·.1) →
      store.list version = .ok references →
      CacheRequest.Step store cache (.listing version)
        { cache with
          listings := (version, references) :: cache.listings
          calls := .list version true :: cache.calls }
  | listingFailed {version fault} :
      store.list version = .error fault →
      CacheRequest.Step store cache (.listing version)
        { cache with calls := .list version false :: cache.calls }
  | profileKept {reference profile} :
      (reference, profile) ∈ cache.profiles →
      CacheRequest.Step store cache (.profile reference) { cache with hits := cache.hits + 1 }
  | profileRead {reference profile} :
      reference ∉ cache.profiles.map (·.1) →
      store.load reference = .ok profile →
      CacheRequest.Step store cache (.profile reference)
        { cache with
          profiles := (reference, profile) :: cache.profiles
          misses := cache.misses + 1
          calls := .load reference true :: cache.calls }
  | profileFailed {reference fault} :
      store.load reference = .error fault →
      CacheRequest.Step store cache (.profile reference)
        { cache with
          misses := cache.misses + 1
          calls := .load reference false :: cache.calls }

theorem not_mem_of_lookup {κ β : Type} [BEq κ] [LawfulBEq κ] {entries : List (κ × β)}
    {key : κ} (absent : entries.lookup key = none) : key ∉ entries.map (·.1) := by
  rw [List.lookup_eq_none_iff] at absent
  intro member
  obtain ⟨entry, inside, rfl⟩ := List.mem_map.mp member
  exact bne_iff_ne.mp (absent entry inside) rfl

theorem CacheRequest.run_step (request : CacheRequest) (store : Store α) (cache : Cache α) :
    request.Step store cache (request.run store cache) := by
  cases request with
  | listing version =>
    change Step store cache _ (Cache.listing store version cache).2
    unfold Cache.listing
    cases known : cache.listings.lookup version with
    | some references => exact .listingKept (mem_of_lookup known)
    | none =>
      cases answered : store.list version with
      | ok references => exact .listingRead (not_mem_of_lookup known) answered
      | error fault => exact .listingFailed answered
  | profile reference =>
    change Step store cache _ (Cache.load store reference cache).2
    unfold Cache.load
    cases known : cache.profiles.lookup reference with
    | some profile => exact .profileKept (mem_of_lookup known)
    | none =>
      cases answered : store.load reference with
      | ok profile => exact .profileRead (not_mem_of_lookup known) answered
      | error fault => exact .profileFailed answered

/-- What a cache holds is what its calls have brought, each thing once, and every load was
counted as a miss. -/
structure Cache.Accounted (cache : Cache α) : Prop where
  listings : cache.calls.filterMap StoreCall.listed? = cache.listings.map (·.1)
  profiles : cache.calls.filterMap StoreCall.loaded? = cache.profiles.map (·.1)
  listedOnce : (cache.listings.map (·.1)).Nodup
  loadedOnce : (cache.profiles.map (·.1)).Nodup
  misses : cache.misses = cache.calls.countP StoreCall.isLoad

theorem CacheRequest.Step.accounted {store : Store α} {cache later : Cache α}
    {request : CacheRequest} (step : request.Step store cache later)
    (accounted : cache.Accounted) : later.Accounted := by
  obtain ⟨listings, profiles, listedOnce, loadedOnce, misses⟩ := accounted
  cases step with
  | listingKept | listingFailed | profileKept =>
    exact ⟨listings, profiles, listedOnce, loadedOnce, misses⟩
  | listingRead fresh answered =>
    exact ⟨congrArg (List.cons _) listings, profiles, listedOnce.cons fresh, loadedOnce, misses⟩
  | profileRead fresh answered =>
    exact ⟨listings, congrArg (List.cons _) profiles, listedOnce, loadedOnce.cons fresh,
      (congrArg (· + 1) misses).trans (List.countP_cons_of_pos rfl).symm⟩
  | profileFailed answered =>
    exact ⟨listings, profiles, listedOnce, loadedOnce,
      (congrArg (· + 1) misses).trans (List.countP_cons_of_pos rfl).symm⟩

/-- The references whose profiles are asked for, as often as they are. -/
def CacheRequest.references (requests : List CacheRequest) : List ProfileRef :=
  requests.filterMap fun
    | profile reference => some reference
    | listing _ => none

theorem CacheRequest.mem_references {requests : List CacheRequest} {reference : ProfileRef} :
    reference ∈ references requests ↔ .profile reference ∈ requests := by
  rw [references, List.mem_filterMap]
  constructor
  · rintro ⟨_ | _, member, same⟩ <;> cases same
    exact member
  · exact fun member => ⟨_, member, rfl⟩

/-- Each request for a profile was counted, as a hit or as a miss, and the loads that were
called for are those of the requested profiles, each with the answer that the store gives. -/
structure Cache.Reflects (store : Store α) (requests : List CacheRequest) (cache : Cache α) :
    Prop where
  reads : cache.hits + cache.misses = (CacheRequest.references requests).length
  loads : ∀ reference answered, .load reference answered ∈ cache.calls ↔
    .profile reference ∈ requests ∧ (store.load reference).isOk = answered

theorem Cache.Accounted.mem_profiles_iff {cache : Cache α} (accounted : cache.Accounted)
    {reference : ProfileRef} :
    reference ∈ cache.profiles.map (·.1) ↔ .load reference true ∈ cache.calls := by
  rw [← accounted.profiles, ← List.count_pos_iff, ← StoreCall.count_load, List.count_pos_iff]

/-- A request for a profile is counted once. -/
theorem CacheRequest.Step.reads {store : Store α} {cache later : Cache α}
    {request : CacheRequest} (step : request.Step store cache later) :
    later.hits + later.misses =
      cache.hits + cache.misses + (CacheRequest.references [request]).length := by
  cases step with
  | listingKept | listingRead | listingFailed => rfl
  | profileKept => exact Nat.add_right_comm ..
  | profileRead | profileFailed => rfl

/-- A profile that is held was asked for before, so asking for it once more adds nothing to
what the calls reflect. -/
theorem CacheRequest.Step.reflects {store : Store α} {cache later : Cache α}
    {requests : List CacheRequest} {request : CacheRequest} (step : request.Step store cache later)
    (accounted : cache.Accounted) (reflects : cache.Reflects store requests) :
    later.Reflects store (requests ++ [request]) := by
  obtain ⟨reads, loads⟩ := reflects
  have called {reference : ProfileRef} {flag : Bool}
      (flagged : (store.load reference).isOk = flag) (other : ProfileRef) (answered : Bool) :
      .load other answered ∈ .load reference flag :: cache.calls ↔
        .profile other ∈ requests ++ [.profile reference] ∧
          (store.load other).isOk = answered := by
    rw [List.mem_cons, loads, List.mem_append, List.mem_singleton, StoreCall.load.injEq,
      CacheRequest.profile.injEq]
    by_cases same : other = reference
    · subst same
      rw [← flagged]
      grind
    · simp [same]
  constructor
  case reads =>
    rw [step.reads, reads, references, references, references, List.filterMap_append,
      List.length_append]
  case loads =>
    cases step with
    | listingKept | listingRead | listingFailed => simpa using loads
    | @profileKept reference profile held =>
      have kept : .load reference true ∈ cache.calls :=
        accounted.mem_profiles_iff.mp (List.mem_map.mpr ⟨_, held, rfl⟩)
      obtain ⟨asked, _⟩ := (loads reference true).mp kept
      intro other answered
      rw [List.mem_append, List.mem_singleton, CacheRequest.profile.injEq,
        or_iff_left_of_imp fun same : other = reference => same ▸ asked]
      exact loads other answered
    | profileRead fresh answered => exact called (by rw [answered]; rfl)
    | profileFailed answered => exact called (by rw [answered]; rfl)

/-- By the requests from the last to the first: each is a step. -/
theorem Cache.reflects_run (store : Store α) (requests : List CacheRequest) :
    (requests.foldl (CacheRequest.run store) .empty).Accounted ∧
      (requests.foldl (CacheRequest.run store) .empty).Reflects store requests := by
  induction requests using List.reverseRecOn with
  | nil => exact ⟨⟨rfl, rfl, .nil, .nil, rfl⟩, ⟨rfl, by simp [empty]⟩⟩
  | append_singleton requests request ih =>
    obtain ⟨accounted, reflects⟩ := ih
    rw [List.foldl_concat]
    have step := request.run_step store (requests.foldl (CacheRequest.run store) .empty)
    exact ⟨step.accounted accounted, step.reflects accounted reflects⟩

/-- A miss is a load that has failed or one that has brought a profile that is held. -/
theorem Cache.Accounted.misses_eq {cache : Cache α} (accounted : cache.Accounted) :
    cache.misses =
      cache.calls.countP StoreCall.isFailedLoad + (cache.profiles.map (·.1)).toFinset.card := by
  rw [List.toFinset_card_of_nodup accounted.loadedOnce, ← accounted.profiles, accounted.misses,
    StoreCall.countP_isLoad, Nat.add_comm]

/-- Without failed loads all that was asked for is held. -/
theorem Cache.Reflects.misses_of_unfailing {store : Store α} {requests : List CacheRequest}
    {cache : Cache α} (reflects : cache.Reflects store requests) (accounted : cache.Accounted)
    (unfailing : ∀ reference, .load reference false ∉ cache.calls) :
    cache.misses = (CacheRequest.references requests).toFinset.card := by
  have none : cache.calls.countP StoreCall.isFailedLoad = 0 := by
    refine List.countP_eq_zero.mpr fun call member failed => ?_
    rcases call with _ | ⟨reference, _ | _⟩ <;> cases failed
    exact unfailing reference member
  rw [accounted.misses_eq, none, Nat.zero_add]
  congr 1
  ext reference
  rw [List.mem_toFinset, List.mem_toFinset, accounted.mem_profiles_iff, reflects.loads,
    CacheRequest.mem_references]
  refine and_iff_left_of_imp fun asked => ?_
  by_contra unanswered
  have failed := Bool.eq_false_of_not_eq_true unanswered
  exact unfailing reference ((reflects.loads _ _).mpr ⟨asked, failed⟩)

variable [Scalar α] [Tally α] [Hundredths α]

/-- The cache after calls in turn, each with a history of its own, which begin with nothing
cached. -/
def Cache.afterCalls (store : Store α) (calls : List (History × CacheCall α)) : Cache α :=
  calls.foldl (fun cache (history, call) => call.run history store cache) .empty

/-- All that calls ask of their cache, one call after the other. -/
def CacheCall.allRequests (store : Store α) (calls : List (History × CacheCall α)) :
    List CacheRequest :=
  calls.flatMap fun (history, call) => call.requests history store

theorem Cache.afterCalls_faithful (store : Store α) (calls : List (History × CacheCall α)) :
    (afterCalls store calls).Faithful store :=
  List.foldlRecOn calls _ (empty_faithful store) fun _ faithful entry _ =>
    entry.2.run_faithful entry.1 faithful

/-- Calls leave the cache that their requests leave. -/
theorem Cache.afterCalls_eq (store : Store α) (calls : List (History × CacheCall α)) :
    afterCalls store calls =
      (CacheCall.allRequests store calls).foldl (CacheRequest.run store) .empty := by
  induction calls using List.reverseRecOn with
  | nil => rfl
  | append_singleton calls entry ih =>
    have ran := (entry.2.run_eq entry.1 (afterCalls_faithful store calls)).1
    rw [CacheCall.allRequests, List.flatMap_append, List.flatMap_singleton, List.foldl_append]
    refine (List.foldl_concat ..).trans (ran.trans ?_)
    rw [ih]
    rfl

/-- A load that fails makes a call fail: the one that has asked for it. -/
theorem Cache.isOk_load_of_succeeds {store : Store α} {calls : List (History × CacheCall α)}
    (succeeds : ∀ earlier history call later, calls = earlier ++ (history, call) :: later →
      call.succeeds history store (afterCalls store earlier) = true)
    {reference : ProfileRef} (asked : .profile reference ∈ CacheCall.allRequests store calls) :
    (store.load reference).isOk = true := by
  obtain ⟨⟨history, call⟩, member, inside⟩ := List.mem_flatMap.mp asked
  obtain ⟨earlier, later, split⟩ := List.append_of_mem member
  have faithful := afterCalls_faithful store earlier
  exact (call.run_eq history faithful).2 (succeeds _ _ _ _ split) _ inside

/-- Whatever calls share a cache, each with a history of its own, a version is listed and a
profile is loaded successfully at most once. Every read that the calls ask for is a hit or a
miss, every miss is a load, and the loads that succeed are as many as the profiles that are
held. When no load fails, and so when no call fails, there are as many misses as different
references have been asked for. -/
theorem Cache.afterCalls_reads (store : Store α) (calls : List (History × CacheCall α)) :
    let cache := Cache.afterCalls store calls
    let references := CacheRequest.references (CacheCall.allRequests store calls)
    (∀ version, cache.calls.count (.list version true) ≤ 1) ∧
    (∀ reference, cache.calls.count (.load reference true) ≤ 1) ∧
    cache.hits + cache.misses = references.length ∧
    cache.misses = cache.calls.countP StoreCall.isLoad ∧
    cache.misses =
      cache.calls.countP StoreCall.isFailedLoad + (cache.profiles.map (·.1)).toFinset.card ∧
    ((∀ reference, .load reference false ∉ cache.calls) →
      cache.misses = references.toFinset.card) ∧
    ((∀ earlier history call later, calls = earlier ++ (history, call) :: later →
        call.succeeds history store (Cache.afterCalls store earlier) = true) →
      cache.misses = references.toFinset.card) := by
  intro cache references
  obtain ⟨accounted, reflects⟩ := reflects_run store (CacheCall.allRequests store calls)
  rw [← afterCalls_eq] at accounted reflects
  have undisturbed := reflects.misses_of_unfailing accounted
  refine ⟨fun version => ?_, fun reference => ?_, reflects.reads, accounted.misses,
    accounted.misses_eq, undisturbed, fun succeeds => undisturbed fun reference failed => ?_⟩
  · rw [StoreCall.count_list, accounted.listings]
    exact List.nodup_iff_count_le_one.mp accounted.listedOnce version
  · rw [StoreCall.count_load, accounted.profiles]
    exact List.nodup_iff_count_le_one.mp accounted.loadedOnce reference
  · obtain ⟨asked, unanswered⟩ := (reflects.loads _ _).mp failed
    rw [isOk_load_of_succeeds succeeds asked] at unanswered
    cases unanswered

open scoped Lanes

/-- Every version lists a small and a large workload. No other profile can be loaded. -/
def paired : Store Float where
  list _ := .ok [⟨"small"⟩, ⟨"large"⟩]
  load reference :=
    if reference ∈ [⟨"small"⟩, ⟨"large"⟩] then
      .ok (.blank (Baseline.workload reference.text) "time")
    else .error (.failure (.unknownProfile reference))

/-- A search that ends at the first version it inspects, that version once more, and a load. -/
def sharingCalls (reference : ProfileRef) : List (History × CacheCall Float) :=
  [(Baseline.crossing, .find (Baseline.workload "large") ⟨"merge"⟩),
    (Baseline.crossing, .profilesOf ⟨"left"⟩), (Baseline.crossing, .load reference)]

theorem allRequests_sharingCalls (reference : ProfileRef) :
    CacheCall.allRequests paired (sharingCalls reference) =
      [.listing ⟨"left"⟩, .profile ⟨"small"⟩, .profile ⟨"large"⟩,
        .listing ⟨"left"⟩, .profile ⟨"small"⟩, .profile ⟨"large"⟩, .profile reference] := by
  have searched : Baseline.requests (Baseline.workload "large") Baseline.crossing paired
      ⟨"merge"⟩ = [.listing ⟨"left"⟩, .profile ⟨"small"⟩, .profile ⟨"large"⟩] := by
    change Baseline.searchRequests _ _ _
      ⟨[⟨"right"⟩, ⟨"left"⟩, ⟨"merge"⟩], [⟨"left"⟩, ⟨"right"⟩]⟩ = _
    rw [Baseline.searchRequests]
    rfl
  change Baseline.requests _ _ _ _ ++ _ = _
  rw [searched]
  rfl

theorem Cache.afterCalls_reads_sharing :
    (∀ reference, .load reference false ∉ (afterCalls paired (sharingCalls ⟨"small"⟩)).calls) ∧
    (afterCalls paired (sharingCalls ⟨"small"⟩)).misses = 2 ∧
    (afterCalls paired (sharingCalls ⟨"small"⟩)).hits = 3 ∧
    (afterCalls paired (sharingCalls ⟨"lost"⟩)).misses = 3 ∧
    (afterCalls paired (sharingCalls ⟨"lost"⟩)).calls.count (.load ⟨"small"⟩ true) ≤ 1 := by
  obtain ⟨-, -, reads, -, -, distinct, -⟩ := afterCalls_reads paired (sharingCalls ⟨"small"⟩)
  obtain ⟨-, once, -, -, split, -⟩ := afterCalls_reads paired (sharingCalls ⟨"lost"⟩)
  have unfailing : ∀ reference,
      .load reference false ∉ (afterCalls paired (sharingCalls ⟨"small"⟩)).calls := by
    have calls : (afterCalls paired (sharingCalls ⟨"small"⟩)).calls =
        [.load ⟨"large"⟩ true, .load ⟨"small"⟩ true, .list ⟨"left"⟩ true] := by
      rw [afterCalls_eq, allRequests_sharingCalls]
      rfl
    simp [calls]
  rw [allRequests_sharingCalls] at reads distinct
  have misses : (afterCalls paired (sharingCalls ⟨"small"⟩)).misses = 2 := distinct unfailing
  have hits : (afterCalls paired (sharingCalls ⟨"small"⟩)).hits = 3 := by
    rw [misses] at reads
    exact Nat.add_right_cancel (show _ + 2 = 3 + 2 from reads)
  have failing : (afterCalls paired (sharingCalls ⟨"lost"⟩)).misses = 3 := by
    refine split.trans ?_
    rw [afterCalls_eq, allRequests_sharingCalls]
    rfl
  exact ⟨unfailing, misses, hits, failing, once ⟨"small"⟩⟩

end ProfileDrift
