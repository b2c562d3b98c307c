import Mathlib.Data.Set.Card
import ProfileDrift.Decimal.Notation
import ProfileDrift.Proofs.LoneCheck
import ProfileDrift.Proofs.NearestBaseline
import ProfileDrift.Proofs.Outcome
import ProfileDrift.Scalar.Blocks

namespace ProfileDrift

/-- The versions other than the target that can be reached from it. In a cycle the
target can be reached from itself and is none of them all the same. -/
def History.ancestry (history : History) (target : VersionId) : Set VersionId :=
  {version | version ≠ target ∧ ∃ length, history.Path target length version}

/-- The versions that the store was asked to list, in the order of the calls. -/
def Cache.listed {α : Type} (cache : Cache α) : List VersionId :=
  cache.calls.reverse.filterMap fun
    | .list version _ => some version
    | .load _ _ => none

/-- An edge leads from a version to one of its parents. -/
theorem History.parents_of_mem_edges {history : History} {target version parent : VersionId}
    (next : parent ∈ history.edges target version) :
    ∃ found, history.parents version = .ok found ∧ parent ∈ found := by
  unfold edges at next
  cases answered : history.parents version with
  | error fault =>
    rw [answered] at next
    split at next <;> simp_all
  | ok parents =>
    refine ⟨parents, rfl, ?_⟩
    rw [answered] at next
    split at next
    · split at next <;> simp_all
    · simp_all
    · simp_all

theorem History.ancestry_finite (history : History) (target : VersionId) :
    (history.ancestry target).Finite := by
  obtain ⟨region, within, closed⟩ := history.finite target
  refine region.finite_toSet.subset ?_
  rintro version ⟨-, length, path⟩
  change version ∈ region
  induction path with
  | start => exact within
  | edge path next ih =>
    obtain ⟨found, answered, member⟩ := parents_of_mem_edges next
    exact closed _ ih found answered _ member

section Rounds

open Baseline

variable {α : Type} {configuration : Configuration} {history : History} {store : Store α}
  {target : VersionId} {frontier : Frontier} {inspected : List VersionId}

/-- Wherever a search has come, what it goes on to find is what it finds as a whole. -/
theorem SearchReach.alone_find
    (reach : SearchReach configuration history store target frontier inspected) :
    (find configuration history store target).alone =
      (search configuration history store frontier inspected.length).alone := by
  induction reach with
  | start answered =>
    rw [Baseline.alone_find, answered]
    rfl
  | next previous read unmatched answered ih =>
    rw [ih, alone_search_cons, read]
    change foundOr _ _ _ (matching? configuration _) = _
    rw [unmatched, answered, List.length_append]
    rfl

theorem SearchReach.nodup
    (reach : SearchReach configuration history store target frontier inspected) :
    (target :: inspected ++ frontier.queue).Nodup := by
  obtain ⟨queued, record⟩ := reach.discovered
  rw [queued, record]
  exact nodup_eraseDups _

theorem SearchReach.mem_ancestry
    (reach : SearchReach configuration history store target frontier inspected) :
    ∀ version ∈ inspected ++ frontier.queue, version ∈ history.ancestry target := by
  intro version member
  have distinct := reach.nodup
  rw [List.cons_append, List.nodup_cons] at distinct
  exact ⟨fun same => distinct.1 (same ▸ member), reach.reachable version (.tail _ member)⟩

/-- No run of the search is longer than there are ancestors. -/
theorem SearchReach.length_le
    (reach : SearchReach configuration history store target frontier inspected) :
    (inspected ++ frontier.queue).length ≤ (history.ancestry target).ncard := by
  have distinct := reach.nodup
  rw [List.cons_append, List.nodup_cons] at distinct
  rw [← List.toFinset_card_of_nodup distinct.2, ← Set.ncard_coe_finset]
  refine Set.ncard_le_ncard (fun version member => ?_) (history.ancestry_finite target)
  exact reach.mem_ancestry version (List.mem_toFinset.mp member)

/-- When nothing is left to inspect, every ancestor has been inspected. -/
theorem SearchReach.length_of_exhausted {seen : List VersionId}
    (reach : SearchReach configuration history store target ⟨seen, []⟩ inspected) :
    inspected.length = (history.ancestry target).ncard := by
  have within := reach.length_le
  rw [List.append_nil] at within
  obtain ⟨queued, record⟩ := reach.discovered
  rw [List.append_nil] at queued
  have closed := queued.trans record
  have whole : history.ancestry target ⊆ inspected.toFinset := by
    rintro version ⟨other, length, path⟩
    have followed := History.mem_of_closed ⟨inspected, rfl⟩ closed path
    exact List.mem_toFinset.mpr (List.mem_of_ne_of_mem other followed)
  refine Nat.le_antisymm within ?_
  calc (history.ancestry target).ncard
      ≤ (inspected.toFinset : Set VersionId).ncard :=
        Set.ncard_le_ncard whole inspected.toFinset.finite_toSet
    _ = inspected.toFinset.card := Set.ncard_coe_finset _
    _ ≤ inspected.length := List.toFinset_card_le _

end Rounds

namespace Cache

variable {α : Type} (store : Store α)

theorem listed_load (reference : ProfileRef) (cache : Cache α) :
    ((load store reference).through cache).2.listed = cache.listed ∧
      ((load store reference).through cache).2.listings = cache.listings := by
  change (load store reference cache).2.listed = _ ∧ (load store reference cache).2.listings = _
  unfold load
  cases cache.profiles.lookup reference with
  | some profile => exact ⟨rfl, rfl⟩
  | none => cases store.load reference <;> simp [listed]

/-- Loading asks for no listing. -/
theorem listed_loadAll (references : List ProfileRef) (cache : Cache α) :
    ((loadAll store references).through cache).2.listed = cache.listed ∧
      ((loadAll store references).through cache).2.listings = cache.listings := by
  induction references generalizing cache with
  | nil => exact ⟨rfl, rfl⟩
  | cons reference rest ih =>
    rw [loadAll, Reading.through_bind]
    have first := listed_load store reference cache
    cases run : (load store reference).through cache with
    | mk result later =>
      rw [run] at first
      cases result with
      | error fault => exact first
      | ok profile =>
        have others := ih later
        rw [first.1, first.2] at others
        change (((loadAll store rest) >>= _).through later).2.listed = _ ∧
          (((loadAll store rest) >>= _).through later).2.listings = _
        rw [Reading.through_bind]
        cases again : (loadAll store rest).through later with
        | mk result last =>
          rw [again] at others
          cases result <;> exact others

/-- A version that is not in the cache is listed by one call to the store. -/
theorem listed_profilesOf {version : VersionId} {cache : Cache α}
    (fresh : cache.listings.lookup version = none) :
    ((profilesOf store version).through cache).2.listed = cache.listed ++ [version] ∧
      ∀ entry ∈ ((profilesOf store version).through cache).2.listings,
        entry.1 = version ∨ entry ∈ cache.listings := by
  rw [profilesOf, Reading.through_bind]
  have asked : (listing store version).through cache = listing store version cache := rfl
  rw [asked, listing, fresh]
  cases store.list version with
  | error fault => exact ⟨by simp [listed], fun entry member => .inr member⟩
  | ok references =>
    dsimp only
    rw [(listed_loadAll store references _).1, (listed_loadAll store references _).2]
    refine ⟨by simp [listed], fun entry member => ?_⟩
    rcases List.mem_cons.mp member with here | there
    · exact .inl (congrArg Prod.fst here)
    · exact .inr there

end Cache

namespace Baseline

variable {α : Type} {configuration : Configuration} {history : History} {store : Store α}
  {target : VersionId}

/-- How many versions a search says that it has inspected: all ancestors when it has
found nothing, and otherwise those that come no later than the version that it has found. -/
def Counts (history : History) (target : VersionId) : Pairing α → Prop
  | .notFound visited => visited = (history.ancestry target).ncard
  | .found version _ _ visited => ∃ length earlier later,
    history.IsDistance target length version ∧
    history.breadthFirst target length = target :: earlier ++ version :: later ∧
    visited = earlier.length + 1

theorem counts_of_find {pairing : Pairing α}
    (answered : (find configuration history store target).alone = .ok pairing) :
    Counts history target pairing := by
  have ended := find_ends configuration history store target
  rw [answered] at ended
  cases ended with
  | exhausted reach => exact reach.length_of_exhausted
  | @matched seen version rest inspected profiles reference profile reach read first =>
    obtain ⟨queued, record⟩ := reach.discovered
    obtain ⟨length, later, distance, order, _⟩ :=
      History.breadthFirst_of_discovered ⟨inspected, rfl⟩ (queued.trans record)
        (reach.reachable version (List.mem_append_right (target :: inspected) (List.mem_cons_self ..)))
    exact ⟨length, inspected, later, distance, order, rfl⟩

/-- A search that has listed what it has inspected, and nothing else, lists the rest of
what it inspects in the same order, each version by one call. -/
theorem listed_search {frontier : Frontier} {visited : Nat} {inspected : List VersionId}
    {cache : Cache α} (reach : SearchReach configuration history store target frontier inspected)
    (counted : inspected.length = visited) (faithful : cache.Faithful store)
    (asked : cache.listed = inspected) (known : ∀ entry ∈ cache.listings, entry.1 ∈ inspected) :
    let run := (search configuration history store frontier visited).through cache
    (∃ last passed, SearchReach configuration history store target last passed ∧
      run.2.listed <+: passed ++ last.queue) ∧
    ∀ pairing, run.1 = .ok pairing → pairing.visited = run.2.listed.length := by
  induction frontier, visited using search_induction history generalizing inspected cache with
  | exhausted seen visited =>
    rw [search]
    refine ⟨⟨_, inspected, reach, ?_⟩, fun pairing answered => ?_⟩
    · rw [List.append_nil, ← asked]
      exact List.prefix_rfl
    · cases answered
      exact counted.symm.trans (congrArg List.length asked.symm)
  | inspected seen version rest visited ih =>
    have fresh : cache.listings.lookup version = none := by
      refine List.lookup_eq_none_iff.mpr fun entry member => ?_
      have distinct := (List.nodup_append.mp reach.nodup).2.2
      have other := distinct entry.1 (.tail target (known entry member)) version (List.mem_cons_self ..)
      exact bne_iff_ne.mpr other.symm
    obtain ⟨listedNow, listingsNow⟩ := Cache.listed_profilesOf store fresh
    obtain ⟨same, later⟩ := Cache.profilesOf_settled store version cache faithful
    rw [Cache.alone_profilesOf] at same
    rw [search_cons, Reading.through_bind]
    cases run : (Cache.profilesOf store version).through cache with
    | mk result left =>
      rw [run] at listedNow listingsNow same later
      dsimp only at listedNow listingsNow same later
      have whole : left.listed <+: inspected ++ version :: rest := by
        rw [listedNow, asked]
        exact ⟨rest, by simp⟩
      have counted' : left.listed.length = visited + 1 := by
        rw [listedNow, asked, List.length_append, counted]
        rfl
      cases result with
      | error fault =>
        exact ⟨⟨_, inspected, reach, whole⟩, fun pairing answered => by cases answered⟩
      | ok profiles =>
        dsimp only
        cases first : matching? configuration profiles with
        | some found =>
          refine ⟨⟨_, inspected, reach, whole⟩, fun pairing answered => ?_⟩
          cases answered
          exact counted'.symm
        | none =>
          change (∃ last passed, _ ∧
            ((Reading.ask (history.onward version) >>= _).through left).2.listed <+: _) ∧ _
          cases answered : history.onward version with
          | error fault =>
            exact ⟨⟨_, inspected, reach, whole⟩, fun pairing answered => by cases answered⟩
          | ok parents =>
            refine ih parents answered (reach.next same.symm first answered) (by simp [counted]) later ?_ ?_
            · rw [listedNow, asked]
            · intro entry member
              rcases listingsNow entry member with here | there
              · exact List.mem_append_right _ (List.mem_singleton.mpr here)
              · exact List.mem_append_left _ (known entry there)

/-- What a fresh cache records of a search for a baseline are ancestors, none of them
twice, and as many as the search says it has inspected. -/
theorem listed_find :
    let run := (find configuration history store target).through .empty
    run.2.listed.Nodup ∧ (∀ version ∈ run.2.listed, version ∈ history.ancestry target) ∧
      ∀ pairing, run.1 = .ok pairing → pairing.visited = run.2.listed.length := by
  rw [find, Reading.through_bind]
  cases answered : history.parents target with
  | error fault =>
    exact ⟨.nil, fun _ member => absurd member List.not_mem_nil, fun _ answered => by cases answered⟩
  | ok parents =>
    have begun : SearchReach configuration history store target
        ((Frontier.start target).meetAll parents) [] := .start answered
    obtain ⟨⟨last, passed, reach, whole⟩, counted⟩ := listed_search begun rfl
      (Cache.empty_faithful store) rfl fun _ member => nomatch member
    have distinct := reach.nodup
    rw [List.cons_append, List.nodup_cons] at distinct
    exact ⟨distinct.2.sublist whole.sublist, fun version member =>
      reach.mem_ancestry version (whole.subset member), counted⟩

end Baseline

namespace Settings

variable {α : Type} [Scalar α] [Tally α] [Hundredths α] {settings : Settings α}
  {history : History} {store : Store α} {version : VersionId}

/-- A note says how many ancestors the version has. -/
theorem visited_of_checkProfile {reference : ProfileRef} {target : Profile α} {note : NotComparable}
    (answered : (settings.checkProfile history store version reference target).alone =
      .ok (.notComparable note)) : note.visited = (history.ancestry version).ncard := by
  rw [alone_checkProfile] at answered
  cases found : (Baseline.find target.configuration history store version).alone with
  | error fault => rw [found] at answered; cases answered
  | ok pairing =>
    have counts := Baseline.counts_of_find found
    rw [found] at answered
    change settings.verdict reference target pairing = _ at answered
    cases pairing with
    | notFound visited =>
      cases answered
      exact counts
    | found baselineVersion baseline profile visited =>
      dsimp only [verdict] at answered
      cases reports : settings.checkPair profile target <;> rw [reports] at answered <;> cases answered

theorem visited_of_checkVersion {check : VersionCheck α}
    (answered : (settings.checkVersion history store version).alone = .ok check) :
    ∀ note ∈ check.notComparable, note.visited = (history.ancestry version).ncard := by
  rw [alone_checkVersion] at answered
  obtain ⟨targets, listed, answered⟩ := bind_eq_ok answered
  obtain ⟨verdicts, judged, made⟩ := bind_eq_ok answered
  cases made
  intro note member
  obtain ⟨verdict, inside, noted⟩ := List.mem_filterMap.mp member
  obtain ⟨entry, _, verdictOf⟩ := mem_of_mapM_eq_ok judged verdict inside
  cases verdict with
  | checked check => cases noted
  | notComparable other =>
    cases noted
    exact visited_of_checkProfile verdictOf

end Settings

namespace Baseline

/-- A search for a baseline inspects ancestors only, each at most once, whatever the
graph, and so it ends. What it counts does not depend on the cache, and when it finds
nothing it has counted every ancestor, so that the notes of one check all agree. -/
theorem find_inspects_once {α : Type} [Scalar α] [Tally α] [Hundredths α]
    (configuration : Configuration) (history : History) (store : Store α) (target : VersionId) :
    (history.ancestry target).Finite ∧
    (∀ frontier inspected, SearchReach configuration history store target frontier inspected →
      (find configuration history store target).alone =
          (search configuration history store frontier inspected.length).alone ∧
        (target :: inspected ++ frontier.queue).Nodup ∧
        (∀ version ∈ inspected ++ frontier.queue, version ∈ history.ancestry target) ∧
        inspected.length ≤ (history.ancestry target).ncard) ∧
    (let run := (find configuration history store target).through .empty;
      run.2.listed.Nodup ∧ (∀ version ∈ run.2.listed, version ∈ history.ancestry target) ∧
        ∀ pairing, run.1 = .ok pairing → pairing.visited = run.2.listed.length) ∧
    ∀ cache : Cache α, cache.Faithful store →
      SearchEnd configuration history store target
        ((find configuration history store target).through cache).1 ∧
      (∀ visited, ((find configuration history store target).through cache).1 =
          .ok (.notFound visited) → visited = (history.ancestry target).ncard) ∧
      (∀ version reference profile visited,
        ((find configuration history store target).through cache).1 =
            .ok (.found version reference profile visited) →
          ∃ length earlier later, history.IsDistance target length version ∧
            history.breadthFirst target length = target :: earlier ++ version :: later ∧
            visited = earlier.length + 1) ∧
      ∀ (settings : Settings α) (check : VersionCheck α),
        ((settings.checkVersion history store target).through cache).1 = .ok check →
          ∀ note ∈ check.notComparable, note.visited = (history.ancestry target).ncard := by
  refine ⟨history.ancestry_finite target, fun frontier inspected reach => ?_, listed_find,
    fun cache faithful => ?_⟩
  · have within := reach.length_le
    rw [List.length_append] at within
    exact ⟨reach.alone_find, reach.nodup, reach.mem_ancestry, by omega⟩
  · rw [(find_settled configuration history store target cache faithful).1]
    refine ⟨find_ends configuration history store target, fun visited answered => ?_,
      fun version reference profile visited answered => ?_, fun settings check answered => ?_⟩
    · exact counts_of_find answered
    · exact counts_of_find answered
    · rw [(settings.checkVersion_settled history store target cache faithful).1] at answered
      exact Settings.visited_of_checkVersion answered

open scoped Lanes

/-- The merge lists two profiles of a large workload, and all its ancestors one of a
small workload. -/
def strangers : Store Float where
  list version := .ok (if version = ⟨"merge"⟩ then [⟨"first"⟩, ⟨"second"⟩] else [⟨"small"⟩])
  load reference :=
    .ok (.blank (workload (if reference = ⟨"small"⟩ then "small" else "large")) "time")

theorem alone_find_strangers :
    (find (workload "large") crossing strangers ⟨"merge"⟩).alone = .ok (.notFound 3) := by
  rw [alone_find_crossing]
  rfl

theorem find_inspects_once_strangers :
    Cache.Faithful strangers .empty ∧
    SearchReach (workload "small") crossing strangers ⟨"merge"⟩
      ⟨[⟨"right"⟩, ⟨"left"⟩, ⟨"merge"⟩], [⟨"left"⟩, ⟨"right"⟩]⟩ [] ∧
    (∀ version ∈ [⟨"left"⟩, ⟨"right"⟩], version ∈ crossing.ancestry ⟨"merge"⟩) ∧
    ((find (workload "small") crossing strangers ⟨"merge"⟩).through .empty).1 =
      .ok (.found ⟨"left"⟩ ⟨"small"⟩ (.blank (workload "small") "time") 1) ∧
    (∃ length earlier later, crossing.IsDistance ⟨"merge"⟩ length ⟨"left"⟩ ∧
      crossing.breadthFirst ⟨"merge"⟩ length = ⟨"merge"⟩ :: earlier ++ ⟨"left"⟩ :: later ∧
      1 = earlier.length + 1) ∧
    ((find (workload "large") crossing strangers ⟨"merge"⟩).through .empty).1 =
      .ok (.notFound 3) ∧
    3 = (crossing.ancestry ⟨"merge"⟩).ncard ∧
    ∃ check, (((Settings.default : Settings Float).checkVersion crossing strangers
        ⟨"merge"⟩).through .empty).1 = .ok check ∧ check.notComparable.length = 2 ∧
      ∀ note ∈ check.notComparable, note.visited = (crossing.ancestry ⟨"merge"⟩).ncard := by
  have faithful := Cache.empty_faithful strangers
  have found : ((find (workload "small") crossing strangers ⟨"merge"⟩).through .empty).1 =
      .ok (.found ⟨"left"⟩ ⟨"small"⟩ (.blank (workload "small") "time") 1) := by
    change (find _ _ _ _).alone = _
    rw [alone_find_crossing]
    rfl
  have reach : SearchReach (workload "small") crossing strangers ⟨"merge"⟩
      ⟨[⟨"right"⟩, ⟨"left"⟩, ⟨"merge"⟩], [⟨"left"⟩, ⟨"right"⟩]⟩ [] :=
    .start (show crossing.parents ⟨"merge"⟩ = .ok [⟨"left"⟩, ⟨"right"⟩, ⟨"left"⟩] from rfl)
  obtain ⟨-, rounds, -, later⟩ :=
    find_inspects_once (workload "small") crossing strangers ⟨"merge"⟩
  obtain ⟨-, -, ancestors, -⟩ := rounds _ _ reach
  obtain ⟨-, -, counted, agreed⟩ := later .empty faithful
  obtain ⟨-, -, -, absent⟩ :=
    find_inspects_once (workload "large") crossing strangers ⟨"merge"⟩
  obtain ⟨-, exhausted, -, -⟩ := absent .empty faithful
  have checked : ((Settings.default : Settings Float).checkVersion crossing strangers
      ⟨"merge"⟩).alone = .ok (.ofVerdicts ⟨"merge"⟩
        [.notComparable ⟨workload "large", ⟨"first"⟩, 3⟩,
          .notComparable ⟨workload "large", ⟨"second"⟩, 3⟩]) := by
    rw [Settings.alone_checkVersion]
    have listed : strangers.profilesOf ⟨"merge"⟩ =
        .ok [(⟨"first"⟩, .blank (workload "large") "time"),
          (⟨"second"⟩, .blank (workload "large") "time")] := rfl
    have absent : (find (Profile.blank (workload "large") "time" : Profile Float).configuration
        crossing strangers ⟨"merge"⟩).alone = .ok (.notFound 3) := alone_find_strangers
    have noted : ∀ reference, ((Settings.default : Settings Float).checkProfile crossing strangers
        ⟨"merge"⟩ reference (.blank (workload "large") "time")).alone =
          .ok (.notComparable ⟨workload "large", reference, 3⟩) := by
      intro reference
      rw [Settings.alone_checkProfile, absent]
      rfl
    rw [listed]
    simp [Except.mapError, bind, Except.bind, List.mapM_cons, noted, pure, Except.pure]
  exact ⟨faithful, reach, ancestors, found, counted _ _ _ _ found, alone_find_strangers,
    exhausted _ alone_find_strangers, _, checked, rfl, agreed _ _ checked⟩

end Baseline

end ProfileDrift
