import ProfileDrift.Proofs.AncestorOrder
import ProfileDrift.Proofs.SettledSearch

namespace ProfileDrift

/-- The frontiers that a search comes to, each with the versions inspected until then
in their order. None of these carries a profile with the configuration. -/
inductive SearchReach {α : Type} (configuration : Configuration) (history : History)
    (store : Store α) (target : VersionId) : Frontier → List VersionId → Prop
  | start {parents} :
      history.parents target = .ok parents →
      SearchReach configuration history store target ((Frontier.start target).meetAll parents) []
  | next {seen version rest inspected profiles parents} :
      SearchReach configuration history store target ⟨seen, version :: rest⟩ inspected →
      store.profilesOf version = .ok profiles →
      Baseline.matching? configuration profiles = none →
      history.onward version = .ok parents →
      SearchReach configuration history store target (Frontier.meetAll ⟨seen, rest⟩ parents)
        (inspected ++ [version])

/-- How a search ends: without a match when nothing is left to inspect, with the first
match of the version inspected last, or with the fault of the first call that fails. -/
inductive SearchEnd {α : Type} (configuration : Configuration) (history : History)
    (store : Store α) (target : VersionId) : Answer (Pairing α) → Prop
  | unstarted {fault} :
      history.parents target = .error fault →
      SearchEnd configuration history store target (.error fault)
  | exhausted {seen inspected} :
      SearchReach configuration history store target ⟨seen, []⟩ inspected →
      SearchEnd configuration history store target (.ok (.notFound inspected.length))
  | matched {seen version rest inspected profiles reference profile} :
      SearchReach configuration history store target ⟨seen, version :: rest⟩ inspected →
      store.profilesOf version = .ok profiles →
      Baseline.matching? configuration profiles = some (reference, profile) →
      SearchEnd configuration history store target
        (.ok (.found version reference profile (inspected.length + 1)))
  | unread {seen version rest inspected fault} :
      SearchReach configuration history store target ⟨seen, version :: rest⟩ inspected →
      store.profilesOf version = .error fault →
      SearchEnd configuration history store target (.error fault)
  | stranded {seen version rest inspected profiles fault} :
      SearchReach configuration history store target ⟨seen, version :: rest⟩ inspected →
      store.profilesOf version = .ok profiles →
      Baseline.matching? configuration profiles = none →
      history.onward version = .error fault →
      SearchEnd configuration history store target (.error fault)

open Baseline

variable {α : Type} {configuration : Configuration} {history : History} {store : Store α}
  {target : VersionId}

theorem SearchReach.search_ends {frontier : Frontier} {visited : Nat} {inspected : List VersionId}
    (reach : SearchReach configuration history store target frontier inspected)
    (counted : inspected.length = visited) :
    SearchEnd configuration history store target
      (search configuration history store frontier visited).alone := by
  induction frontier, visited using search_induction history generalizing inspected with
  | exhausted seen visited =>
    rw [search, Reading.alone_pure, ← counted]
    exact .exhausted reach
  | inspected seen version rest visited ih =>
    rw [alone_search_cons]
    cases read : store.profilesOf version with
    | error fault => exact .unread reach read
    | ok profiles =>
      change SearchEnd _ _ _ _ (foundOr version _ _ (matching? configuration profiles))
      cases first : matching? configuration profiles with
      | some found =>
        rw [← counted]
        exact .matched reach read first
      | none =>
        cases answered : history.onward version with
        | error fault => exact .stranded reach read first answered
        | ok parents =>
          exact ih parents answered (.next reach read first answered) (by simp [counted])

/-- Every search for a baseline ends in one of these ways. -/
theorem Baseline.find_ends (configuration : Configuration) (history : History) (store : Store α)
    (target : VersionId) :
    SearchEnd configuration history store target
      (find configuration history store target).alone := by
  rw [alone_find]
  cases answered : history.parents target with
  | error fault => exact .unstarted answered
  | ok parents => exact (SearchReach.start answered).search_ends rfl

/-- Meeting versions that are discovered after others keeps a frontier a record of
what has been discovered, each version once. -/
theorem Frontier.seen_meetAll {frontier : Frontier} {discovered : List VersionId}
    (record : frontier.seen.reverse = discovered.eraseDups) (found : List VersionId) :
    (frontier.meetAll found).seen.reverse = (discovered ++ found).eraseDups := by
  induction found generalizing frontier discovered with
  | nil => rwa [List.append_nil]
  | cons version rest ih =>
    have known : version ∈ frontier.seen ↔ version ∈ discovered := by
      rw [← List.mem_reverse, record, List.mem_eraseDups]
    have met : (frontier.meet version).seen.reverse = (discovered ++ [version]).eraseDups := by
      rw [eraseDups_concat, Frontier.meet]
      by_cases old : version ∈ frontier.seen
      · rw [if_pos old, record, if_pos (List.contains_iff_mem.mpr (known.mp old)), List.append_nil]
      · rw [if_neg old, if_neg (fun old' => old (known.mpr (List.contains_iff_mem.mp old'))),
          List.reverse_cons, record]
    have later := ih met
    rwa [List.append_assoc, List.singleton_append] at later

/-- What is met behind some versions is queued behind them. -/
theorem Frontier.queue_meetAll {frontier : Frontier} {done : List VersionId}
    (record : done ++ frontier.queue = frontier.seen.reverse) (found : List VersionId) :
    done ++ (frontier.meetAll found).queue = (frontier.meetAll found).seen.reverse := by
  induction found generalizing frontier with
  | nil => exact record
  | cons version rest ih =>
    have met : done ++ (frontier.meet version).queue = (frontier.meet version).seen.reverse := by
      unfold Frontier.meet
      split
      · exact record
      · rw [List.reverse_cons, ← record, List.append_assoc]
    exact ih met

theorem History.edges_target {history : History} {target : VersionId} {parents : List VersionId}
    (answered : history.parents target = .ok parents) :
    history.edges target target = parents := by
  unfold edges
  rw [answered]
  cases history.isRoot target with
  | error fault => rfl
  | ok root => cases root <;> simp

theorem History.edges_of_onward {history : History} {target version : VersionId}
    {parents : List VersionId} (other : version ≠ target)
    (answered : history.onward version = .ok parents) :
    history.edges target version = parents := by
  unfold edges
  rcases onward_eq_ok answered with ⟨root, none⟩ | ⟨inner, parentsAnswered⟩
  · rw [root, none]
    cases history.parents version with
    | error fault => rfl
    | ok above => simp [other]
  · rw [inner, parentsAnswered]

/-- The target, the inspected versions and the queue are the order of discovery: the
target and what lies next to the target and to each inspected version in turn. The
frontier remembers all of it, the latest first. -/
theorem SearchReach.discovered {frontier : Frontier} {inspected : List VersionId}
    (reach : SearchReach configuration history store target frontier inspected) :
    target :: inspected ++ frontier.queue = frontier.seen.reverse ∧
      frontier.seen.reverse =
        (target :: (target :: inspected).flatMap (history.edges target)).eraseDups := by
  induction reach with
  | @start parents answered =>
    have queued : [target] ++ (Frontier.start target).queue = (Frontier.start target).seen.reverse :=
      rfl
    have record : (Frontier.start target).seen.reverse = [target].eraseDups := rfl
    refine ⟨Frontier.queue_meetAll queued parents, ?_⟩
    rw [Frontier.seen_meetAll record parents, List.flatMap_singleton,
      History.edges_target answered, List.singleton_append]
  | @next seen version rest inspected profiles parents previous read unmatched answered ih =>
    obtain ⟨queued, record⟩ := ih
    have other : version ≠ target := by
      intro same
      have distinct := nodup_eraseDups (target :: (target :: inspected).flatMap (history.edges target))
      rw [← record, ← queued, List.cons_append, List.nodup_cons] at distinct
      exact distinct.1 (same ▸ List.mem_append_right inspected (List.mem_cons_self ..))
    have moved : (target :: (inspected ++ [version])) ++ (Frontier.mk seen rest).queue =
        (Frontier.mk seen rest).seen.reverse := by
      rw [← queued]
      simp
    have later := Frontier.seen_meetAll (show (Frontier.mk seen rest).seen.reverse = _ from record)
      parents
    refine ⟨Frontier.queue_meetAll moved parents, ?_⟩
    rw [later, show target :: (inspected ++ [version]) = (target :: inspected) ++ [version] from rfl,
      List.flatMap_append, List.flatMap_singleton, History.edges_of_onward other answered,
      List.cons_append]

theorem SearchReach.reachable_of_inspected {frontier : Frontier} {inspected : List VersionId}
    (reach : SearchReach configuration history store target frontier inspected)
    (known : ∀ version ∈ target :: inspected, ∃ steps, history.Path target steps version) :
    ∀ version ∈ target :: inspected ++ frontier.queue,
      ∃ steps, history.Path target steps version := by
  intro version member
  obtain ⟨queued, record⟩ := reach.discovered
  rw [queued, record, List.mem_eraseDups, List.mem_cons, List.mem_flatMap] at member
  rcases member with same | ⟨before, inside, next⟩
  · rw [same]
    exact ⟨0, .start⟩
  · obtain ⟨steps, path⟩ := known before inside
    exact ⟨steps + 1, .edge path next⟩

/-- A search meets nothing but what can be reached from its target. -/
theorem SearchReach.reachable {frontier : Frontier} {inspected : List VersionId}
    (reach : SearchReach configuration history store target frontier inspected) :
    ∀ version ∈ target :: inspected ++ frontier.queue,
      ∃ steps, history.Path target steps version := by
  refine reach.reachable_of_inspected ?_
  induction reach with
  | start =>
    intro version member
    rw [List.mem_singleton.mp member]
    exact ⟨0, .start⟩
  | @next seen version rest inspected profiles parents previous read unmatched answered ih =>
    intro other member
    refine previous.reachable_of_inspected ih other ?_
    simp only [List.mem_cons, List.mem_append, List.cons_append, List.not_mem_nil, or_false] at member ⊢
    rcases member with same | inside | here
    · exact .inl same
    · exact .inr (.inl inside)
    · exact .inr (.inr (.inl here))

/-- The version at the head of the queue is the next one in breadth first order: exactly what
was inspected stands before it, and this is all that is nearer to the target. -/
theorem SearchReach.order {seen rest inspected : List VersionId} {version : VersionId}
    (reach : SearchReach configuration history store target ⟨seen, version :: rest⟩ inspected) :
    ∃ length later, history.IsDistance target length version ∧
      history.breadthFirst target length = target :: inspected ++ version :: later ∧
      ∀ shorter nearer, shorter < length → history.Path target shorter nearer →
        nearer ∈ target :: inspected := by
  obtain ⟨queued, record⟩ := reach.discovered
  exact History.breadthFirst_of_discovered ⟨inspected, rfl⟩ (queued.trans record)
    (reach.reachable version
      (List.mem_append_right (target :: inspected) (List.mem_cons_self ..)))

theorem SearchReach.other {seen rest inspected : List VersionId} {version : VersionId}
    (reach : SearchReach configuration history store target ⟨seen, version :: rest⟩ inspected) :
    version ≠ target := by
  obtain ⟨length, later, _, order, _⟩ := reach.order
  intro same
  have distinct : (history.breadthFirst target length).Nodup := History.breadthFirst_nodup length
  rw [order, List.cons_append, List.nodup_cons] at distinct
  exact distinct.1 (same ▸ List.mem_append_right inspected (List.mem_cons_self ..))

/-- The search went on from every version that it inspected, with no fault and no match. -/
theorem SearchReach.passed {frontier : Frontier} {inspected : List VersionId}
    (reach : SearchReach configuration history store target frontier inspected) {version : VersionId}
    (member : version ∈ inspected) :
    ∃ profiles parents, store.profilesOf version = .ok profiles ∧
      matching? configuration profiles = none ∧ history.onward version = .ok parents := by
  induction reach with
  | start => exact absurd member List.not_mem_nil
  | @next seen last rest inspected profiles parents previous read unmatched answered ih =>
    rcases List.mem_append.mp member with earlier | here
    · exact ih earlier
    · rw [List.mem_singleton.mp here]
      exact ⟨profiles, parents, read, unmatched, answered⟩

end ProfileDrift
