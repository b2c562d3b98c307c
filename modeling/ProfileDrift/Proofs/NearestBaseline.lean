import ProfileDrift.Proofs.SearchReach

namespace ProfileDrift

namespace Store

variable {α : Type}

/-- A profile that the store lists for a version has the configuration. -/
def Carries (store : Store α) (configuration : Configuration) (version : VersionId) : Prop :=
  ∃ references reference profile, store.list version = .ok references ∧ reference ∈ references ∧
    store.load reference = .ok profile ∧ profile.configuration = configuration

/-- The reference is the first one listed for a version under which the store keeps a
profile with the configuration, and this is the profile. -/
def IsFirstMatch (store : Store α) (configuration : Configuration) (version : VersionId)
    (reference : ProfileRef) (profile : Profile α) : Prop :=
  ∃ earlier later, store.list version = .ok (earlier ++ reference :: later) ∧
    store.load reference = .ok profile ∧ profile.configuration = configuration ∧
    ∀ other ∈ earlier, ∃ unequal,
      store.load other = .ok unequal ∧ unequal.configuration ≠ configuration

variable {store : Store α} {configuration : Configuration} {version : VersionId}

theorem loaded_of_mapM {references : List ProfileRef} {profiles : List (ProfileRef × Profile α)}
    (answered : (references.mapM fun reference => return (reference, ← store.load reference) :
      Answer (List (ProfileRef × Profile α))) = .ok profiles) :
    references = profiles.map (·.1) ∧ ∀ entry ∈ profiles, store.load entry.1 = .ok entry.2 := by
  induction references generalizing profiles with
  | nil =>
    cases answered
    exact ⟨rfl, fun entry member => absurd member List.not_mem_nil⟩
  | cons reference rest ih =>
    rw [List.mapM_cons] at answered
    cases loaded : store.load reference with
    | error fault => rw [loaded] at answered; cases answered
    | ok profile =>
      cases others : (rest.mapM fun reference => return (reference, ← store.load reference) :
          Answer (List (ProfileRef × Profile α))) with
      | error fault => rw [loaded, others] at answered; cases answered
      | ok found =>
        rw [loaded, others] at answered
        cases answered
        obtain ⟨same, restLoaded⟩ := ih others
        refine ⟨by rw [same]; rfl, fun entry member => ?_⟩
        rcases List.mem_cons.mp member with here | there
        · rw [here]
          exact loaded
        · exact restLoaded entry there

/-- What is read for a version are its references in the order of the listing, each
with the profile kept under it. -/
theorem profilesOf_eq_ok {profiles : List (ProfileRef × Profile α)}
    (answered : store.profilesOf version = .ok profiles) :
    store.list version = .ok (profiles.map (·.1)) ∧
      ∀ entry ∈ profiles, store.load entry.1 = .ok entry.2 := by
  unfold profilesOf at answered
  cases listed : store.list version with
  | error fault => rw [listed] at answered; cases answered
  | ok references =>
    rw [listed] at answered
    obtain ⟨same, loaded⟩ := loaded_of_mapM answered
    exact ⟨by rw [same], loaded⟩

theorem isFirstMatch_of_matching {profiles : List (ProfileRef × Profile α)} {reference : ProfileRef}
    {profile : Profile α} (answered : store.profilesOf version = .ok profiles)
    (first : Baseline.matching? configuration profiles = some (reference, profile)) :
    store.IsFirstMatch configuration version reference profile := by
  obtain ⟨listed, loaded⟩ := profilesOf_eq_ok answered
  obtain ⟨same, before, after, split, unequal⟩ := List.find?_eq_some_iff_append.mp first
  rw [split] at listed loaded
  refine ⟨before.map (·.1), after.map (·.1), by rw [listed]; simp,
    loaded _ (List.mem_append_right _ (List.mem_cons_self ..)), of_decide_eq_true same, ?_⟩
  intro other member
  obtain ⟨entry, inside, rfl⟩ := List.mem_map.mp member
  exact ⟨entry.2, loaded entry (List.mem_append_left _ inside), by simpa using unequal entry inside⟩

theorem not_carries_of_matching {profiles : List (ProfileRef × Profile α)}
    (answered : store.profilesOf version = .ok profiles)
    (unmatched : Baseline.matching? configuration profiles = none) :
    ¬ store.Carries configuration version := by
  rintro ⟨references, reference, profile, listed, member, kept, same⟩
  obtain ⟨listed', loaded⟩ := profilesOf_eq_ok answered
  rw [listed] at listed'
  cases listed'
  obtain ⟨entry, inside, rfl⟩ := List.mem_map.mp member
  have equal := loaded entry inside
  rw [kept] at equal
  cases equal
  exact absurd (decide_eq_true same) (List.find?_eq_none.mp unmatched entry inside)

theorem IsFirstMatch.carries {reference : ProfileRef} {profile : Profile α}
    (first : store.IsFirstMatch configuration version reference profile) :
    store.Carries configuration version := by
  obtain ⟨earlier, later, listed, kept, same, _⟩ := first
  exact ⟨_, reference, profile, listed, List.mem_append_right earlier (List.mem_cons_self ..), kept,
    same⟩

end Store

namespace Baseline

variable {α : Type}

/-- The version is another than the target and can be reached from it, and no other
version carries a profile with the configuration if it is nearer to the target, or
just as near and earlier in breadth first order. -/
def IsNearest (configuration : Configuration) (history : History) (store : Store α)
    (target version : VersionId) : Prop :=
  version ≠ target ∧ ∃ length earlier later,
    history.IsDistance target length version ∧
    history.breadthFirst target length = earlier ++ version :: later ∧
    (∀ nearer other, nearer < length → history.IsDistance target nearer other → other ≠ target →
      ¬ store.Carries configuration other) ∧
    ∀ other ∈ earlier, other ≠ target → ¬ store.Carries configuration other

variable {configuration : Configuration} {history : History} {store : Store α} {target : VersionId}

theorem not_carries_of_inspected {frontier : Frontier} {inspected : List VersionId}
    (reach : SearchReach configuration history store target frontier inspected) {version : VersionId}
    (member : version ∈ target :: inspected) (other : version ≠ target) :
    ¬ store.Carries configuration version := by
  rcases List.mem_cons.mp member with same | inside
  · exact absurd same other
  · obtain ⟨profiles, _, read, unmatched, _⟩ := reach.passed inside
    exact Store.not_carries_of_matching read unmatched

theorem isNearest_of_reach {seen rest inspected : List VersionId} {version : VersionId}
    (reach : SearchReach configuration history store target ⟨seen, version :: rest⟩ inspected) :
    IsNearest configuration history store target version := by
  obtain ⟨length, later, distance, order, nearer⟩ := reach.order
  have inspectedOrTarget : ∀ other ∈ target :: inspected, other ≠ target →
      ¬ store.Carries configuration other := fun other member =>
    not_carries_of_inspected reach member
  exact ⟨reach.other, length, target :: inspected, later, distance, order,
    fun shorter closer bound path => inspectedOrTarget closer (nearer shorter closer bound path.1),
    inspectedOrTarget⟩

/-- A search for a baseline that ends without a fault has found the first match of the
nearest version that has one, and it finds none exactly if no ancestor has one. -/
theorem find_nearest {cache : Cache α} {pairing : Pairing α} (faithful : cache.Faithful store)
    (answered : ((find configuration history store target).through cache).1 = .ok pairing) :
    (∀ version reference profile visited,
      pairing = .found version reference profile visited →
        IsNearest configuration history store target version ∧
          store.IsFirstMatch configuration version reference profile) ∧
    ((∃ visited, pairing = .notFound visited) ↔
      ∀ version length, version ≠ target → history.Path target length version →
        ¬ store.Carries configuration version) := by
  rw [(find_settled configuration history store target cache faithful).1] at answered
  have ended := find_ends configuration history store target
  rw [answered] at ended
  cases ended with
  | @exhausted seen inspected reach =>
    refine ⟨fun _ _ _ _ found => (nomatch found),
      ⟨fun _ version length other path => ?_, fun _ => ⟨_, rfl⟩⟩⟩
    obtain ⟨queued, record⟩ := reach.discovered
    rw [List.append_nil] at queued
    have closed := queued.trans record
    exact not_carries_of_inspected reach
      (History.mem_of_closed ⟨inspected, rfl⟩ closed path) other
  | @matched seen version rest inspected profiles reference profile reach read first =>
    have nearest := isNearest_of_reach reach
    have firstMatch := Store.isFirstMatch_of_matching read first
    refine ⟨fun _ _ _ _ found => ?_, ⟨fun absent => ?_, fun none => ?_⟩⟩
    · cases found
      exact ⟨nearest, firstMatch⟩
    · obtain ⟨visited, absent⟩ := absent
      cases absent
    · obtain ⟨other, length, _, _, ⟨path, _⟩, _⟩ := nearest
      exact absurd firstMatch.carries (none version length other path)

/-- A merge that names its first parent twice, in a graph where that parent names the
merge as its own parent. -/
def crossing : History :=
  (VersionGraph.mk [
    (⟨"merge"⟩, [⟨"left"⟩, ⟨"right"⟩, ⟨"left"⟩]),
    (⟨"left"⟩, [⟨"base"⟩, ⟨"merge"⟩]),
    (⟨"right"⟩, [⟨"base"⟩]),
    (⟨"base"⟩, [])]).history

/-- The versions of the crossing are inspected in this order, each of them once. -/
theorem alone_find_crossing {α : Type} (configuration : Configuration) (store : Store α) :
    (find configuration crossing store ⟨"merge"⟩).alone =
      store.profilesOf ⟨"left"⟩ >>= fun left =>
        foundOr ⟨"left"⟩ 1
          (store.profilesOf ⟨"right"⟩ >>= fun right =>
            foundOr ⟨"right"⟩ 2
              (store.profilesOf ⟨"base"⟩ >>= fun base =>
                foundOr ⟨"base"⟩ 3 (.ok (.notFound 3)) (matching? configuration base))
              (matching? configuration right))
          (matching? configuration left) := by
  have exhausted : (search configuration crossing store
      ⟨[⟨"base"⟩, ⟨"right"⟩, ⟨"left"⟩, ⟨"merge"⟩], []⟩ 3).alone = .ok (.notFound 3) := by
    rw [search]
    rfl
  rw [alone_find]
  change (search _ _ _ ⟨[⟨"right"⟩, ⟨"left"⟩, ⟨"merge"⟩], [⟨"left"⟩, ⟨"right"⟩]⟩ 0).alone = _
  rw [alone_search_cons]
  congr 2
  funext left
  congr 1
  change (search _ _ _
    ⟨[⟨"base"⟩, ⟨"right"⟩, ⟨"left"⟩, ⟨"merge"⟩], [⟨"right"⟩, ⟨"base"⟩]⟩ 1).alone = _
  rw [alone_search_cons]
  congr 2
  funext right
  congr 1
  change (search _ _ _ ⟨[⟨"base"⟩, ⟨"right"⟩, ⟨"left"⟩, ⟨"merge"⟩], [⟨"base"⟩]⟩ 2).alone = _
  rw [alone_search_cons, ← exhausted]
  rfl

def workload (text : String) : Configuration := ⟨"time", "./bin", "", text, []⟩

/-- Both the right parent and the base list a small and a large workload, the left
parent lists none, and the merge lists the large one. -/
def crossingStore : Store Unit where
  list version :=
    .ok (if version = ⟨"left"⟩ then []
      else if version = ⟨"merge"⟩ then [⟨"large"⟩]
      else [⟨"small"⟩, ⟨"large"⟩])
  load reference := .ok (.blank (workload reference.text) "time")

theorem find_nearest_crossing :
    Cache.Faithful crossingStore .empty ∧
    ((find (workload "large") crossing crossingStore ⟨"merge"⟩).through .empty).1 =
      .ok (.found ⟨"right"⟩ ⟨"large"⟩ (.blank (workload "large") "time") 2) ∧
    IsNearest (workload "large") crossing crossingStore ⟨"merge"⟩ ⟨"right"⟩ ∧
    crossingStore.IsFirstMatch (workload "large") ⟨"right"⟩ ⟨"large"⟩
      (.blank (workload "large") "time") := by
  have faithful := Cache.empty_faithful crossingStore
  have answered : ((find (workload "large") crossing crossingStore ⟨"merge"⟩).through .empty).1 =
      .ok (.found ⟨"right"⟩ ⟨"large"⟩ (.blank (workload "large") "time") 2) := by
    rw [(find_settled (workload "large") crossing crossingStore ⟨"merge"⟩ .empty faithful).1,
      alone_find_crossing]
    rfl
  exact ⟨faithful, answered, (find_nearest faithful answered).1 _ _ _ _ rfl⟩

end Baseline

end ProfileDrift
