import ProfileDrift.Proofs.NearestBaseline
import ProfileDrift.Proofs.Outcome

namespace ProfileDrift

/-- Two items of a list are the same, or one of them stands before the other. -/
theorem eq_or_mem_of_prefix {β : Type} {all first second rest rest' : List β} {item other : β}
    (initial : first ++ item :: rest <+: all) (initial' : second ++ other :: rest' <+: all) :
    item = other ∨ item ∈ second ∨ other ∈ first := by
  have ends (before rest : List β) (item : β) : before ++ [item] <+: before ++ item :: rest :=
    ⟨rest, (List.append_cons ..).symm⟩
  have last (before : List β) (item : β) : item ∈ before ++ [item] :=
    List.mem_append_right before (List.mem_cons_self ..)
  rcases List.prefix_or_prefix_of_prefix ((ends first rest item).trans initial)
    ((ends second rest' other).trans initial') with short | short
  · rcases List.prefix_concat_iff.mp short with same | inside
    · exact .inl (List.singleton_inj.mp (List.append_inj' same rfl).2)
    · exact .inr (.inl (inside.subset (last first item)))
  · rcases List.prefix_concat_iff.mp short with same | inside
    · exact .inl (List.singleton_inj.mp (List.append_inj' same rfl).2.symm)
    · exact .inr (.inr (inside.subset (last second other)))

namespace Store

variable {α : Type}

/-- Everything that is listed for the version can be loaded. -/
def Readable (store : Store α) (version : VersionId) : Prop :=
  ∃ references, store.list version = .ok references ∧
    ∀ reference ∈ references, ∃ profile, store.load reference = .ok profile

/-- The fault of the first call that fails when all that is listed for a version is loaded. -/
inductive Unreadable (store : Store α) (version : VersionId) : Fault StoreError → Prop
  | listing {fault} : store.list version = .error fault → Unreadable store version fault
  | loading {earlier reference later fault} :
      store.list version = .ok (earlier ++ reference :: later) →
      (∀ other ∈ earlier, ∃ profile, store.load other = .ok profile) →
      store.load reference = .error fault →
      Unreadable store version fault

variable {store : Store α} {configuration : Configuration} {version : VersionId}
  {fault : Fault StoreError}

theorem entry_eq_ok {reference : ProfileRef} {entry : ProfileRef × Profile α}
    (read : (return (reference, ← store.load reference) : Answer (ProfileRef × Profile α)) =
      .ok entry) : store.load reference = .ok entry.2 := by
  obtain ⟨profile, loaded, made⟩ := bind_eq_ok read
  cases made
  exact loaded

theorem entry_eq_error {reference : ProfileRef}
    (failed : (return (reference, ← store.load reference) : Answer (ProfileRef × Profile α)) =
      .error fault) : store.load reference = .error fault := by
  rcases bind_eq_error failed with unloaded | ⟨_, _, made⟩
  · exact unloaded
  · cases made

theorem profilesOf_eq_error_iff :
    store.profilesOf version = .error fault ↔ store.Unreadable version fault := by
  constructor
  · intro failed
    rcases bind_eq_error failed with unlisted | ⟨references, listed, unloaded⟩
    · exact .listing unlisted
    · obtain ⟨earlier, reference, later, rfl, loaded, fails⟩ := mapM_eq_error_iff.mp unloaded
      refine .loading listed (fun other member => ?_) (entry_eq_error fails)
      obtain ⟨entry, read⟩ := loaded other member
      exact ⟨entry.2, entry_eq_ok read⟩
  · intro unreadable
    unfold profilesOf
    cases unreadable with
    | listing unlisted => rw [unlisted]; rfl
    | @loading earlier reference later _ listed loaded unloaded =>
      rw [listed]
      refine mapM_eq_error_iff.mpr ⟨earlier, reference, later, rfl, fun other member => ?_, ?_⟩
      · obtain ⟨profile, read⟩ := loaded other member
        exact ⟨(other, profile), by rw [read]; rfl⟩
      · rw [unloaded]
        rfl

theorem Unreadable.not_readable (unreadable : store.Unreadable version fault) :
    ¬ store.Readable version := by
  rintro ⟨references, listed, loaded⟩
  cases unreadable with
  | listing unlisted =>
    rw [listed] at unlisted
    cases unlisted
  | @loading earlier reference later _ listed' _ unloaded =>
    rw [listed] at listed'
    cases listed'
    obtain ⟨profile, read⟩ :=
      loaded reference (List.mem_append_right earlier (List.mem_cons_self ..))
    rw [unloaded] at read
    cases read

theorem readable_iff :
    store.Readable version ↔ ∃ profiles, store.profilesOf version = .ok profiles := by
  constructor
  · intro readable
    cases answered : store.profilesOf version with
    | ok profiles => exact ⟨profiles, rfl⟩
    | error fault =>
      exact absurd readable (profilesOf_eq_error_iff.mp answered).not_readable
  · rintro ⟨profiles, answered⟩
    obtain ⟨listed, loaded⟩ := profilesOf_eq_ok answered
    exact ⟨_, listed, List.forall_mem_map.mpr fun entry member => ⟨entry.2, loaded entry member⟩⟩

theorem IsFirstMatch.unique {reference another : ProfileRef} {profile other : Profile α}
    (first : store.IsFirstMatch configuration version reference profile)
    (again : store.IsFirstMatch configuration version another other) :
    reference = another ∧ profile = other := by
  obtain ⟨earlier, later, listed, loaded, equal, unequal⟩ := first
  obtain ⟨earlier', later', listed', loaded', equal', unequal'⟩ := again
  have all : earlier ++ reference :: later = earlier' ++ another :: later' :=
    Except.ok.inj (listed.symm.trans listed')
  have same : reference = another := by
    have whole : earlier' ++ another :: later' <+: earlier ++ reference :: later :=
      all ▸ List.prefix_rfl
    rcases eq_or_mem_of_prefix List.prefix_rfl whole with same | before | before
    · exact same
    · obtain ⟨_, kept, different⟩ := unequal' reference before
      cases kept.symm.trans loaded
      exact absurd equal different
    · obtain ⟨_, kept, different⟩ := unequal another before
      cases kept.symm.trans loaded'
      exact absurd equal' different
  subst same
  exact ⟨rfl, Except.ok.inj (loaded.symm.trans loaded')⟩

variable {profiles : List (ProfileRef × Profile α)}

theorem matching_eq_none_iff (answered : store.profilesOf version = .ok profiles) :
    Baseline.matching? configuration profiles = none ↔ ¬ store.Carries configuration version := by
  refine ⟨not_carries_of_matching answered, fun without => ?_⟩
  cases first : Baseline.matching? configuration profiles with
  | none => rfl
  | some found => exact absurd (isFirstMatch_of_matching answered first).carries without

theorem matching_eq_some_iff (answered : store.profilesOf version = .ok profiles)
    {reference : ProfileRef} {profile : Profile α} :
    Baseline.matching? configuration profiles = some (reference, profile) ↔
      store.IsFirstMatch configuration version reference profile := by
  refine ⟨isFirstMatch_of_matching answered, fun firstMatch => ?_⟩
  cases first : Baseline.matching? configuration profiles with
  | none => exact absurd firstMatch.carries (not_carries_of_matching answered first)
  | some found =>
    obtain ⟨same, same'⟩ := (isFirstMatch_of_matching answered first).unique firstMatch
    exact congrArg some (Prod.ext same same')

end Store

theorem History.onward_eq_error_iff {history : History} {version : VersionId}
    {fault : Fault StoreError} : history.onward version = .error fault ↔
      history.isRoot version = .error fault ∨
        history.isRoot version = .ok false ∧ history.parents version = .error fault := by
  constructor
  · intro failed
    rcases bind_eq_error failed with unknown | ⟨root, answered, failed⟩
    · exact .inl unknown
    · cases root with
      | true => cases failed
      | false => exact .inr ⟨answered, failed⟩
  · rintro (unknown | ⟨inner, unknown⟩)
    · rw [onward, unknown]
      rfl
    · rw [onward, inner]
      exact unknown

namespace Baseline

variable {α : Type}

/-- The search goes on from the version: all that is listed for it can be loaded, nothing of
it is a match, and the history tells where to go on. -/
structure Passes (configuration : Configuration) (history : History) (store : Store α)
    (version : VersionId) : Prop where
  readable : store.Readable version
  unmatched : ¬ store.Carries configuration version
  onward : history.isRoot version = .ok true ∨
    history.isRoot version = .ok false ∧ ∃ parents, history.parents version = .ok parents

/-- The search fails at the version, with this fault. The history is asked about nothing but
a version that was read without a match. -/
inductive FailsAt (configuration : Configuration) (history : History) (store : Store α)
    (version : VersionId) : Fault StoreError → Prop
  | reading {fault} :
      store.Unreadable version fault → FailsAt configuration history store version fault
  | leaving {fault} :
      store.Readable version → ¬ store.Carries configuration version →
      history.isRoot version = .error fault ∨
        history.isRoot version = .ok false ∧ history.parents version = .error fault →
      FailsAt configuration history store version fault

/-- The search comes to the version: it goes on from the target, whatever its profiles are,
and from every version before this one in breadth first order. -/
structure Reaches (configuration : Configuration) (history : History) (store : Store α)
    (target version : VersionId) : Prop where
  started : ∃ parents, history.parents target = .ok parents
  other : version ≠ target
  order : ∃ length earlier later,
    history.breadthFirst target length = earlier ++ version :: later ∧
    ∀ before ∈ earlier, before ≠ target → Passes configuration history store before

/-- How a search ends at a version that it comes to, unless it goes on from there. -/
def stop? (configuration : Configuration) (history : History) (store : Store α)
    (version : VersionId) : Option (Answer (ProfileRef × Profile α)) :=
  match store.profilesOf version with
  | .error fault => some (.error fault)
  | .ok profiles =>
    match matching? configuration profiles with
    | some found => some (.ok found)
    | none =>
      match history.onward version with
      | .error fault => some (.error fault)
      | .ok _ => none

variable {configuration : Configuration} {history : History} {store : Store α}
  {target version : VersionId} {fault : Fault StoreError}

theorem passes_iff : Passes configuration history store version ↔
    ∃ profiles parents, store.profilesOf version = .ok profiles ∧
      matching? configuration profiles = none ∧ history.onward version = .ok parents := by
  constructor
  · rintro ⟨readable, unmatched, onward⟩
    obtain ⟨profiles, answered⟩ := Store.readable_iff.mp readable
    have none := (Store.matching_eq_none_iff answered).mpr unmatched
    rcases onward with root | ⟨inner, parents, known⟩
    · exact ⟨profiles, [], answered, none, by rw [History.onward, root]; rfl⟩
    · exact ⟨profiles, parents, answered, none, by rw [History.onward, inner]; exact known⟩
  · rintro ⟨profiles, parents, answered, none, onward⟩
    refine ⟨Store.readable_iff.mpr ⟨profiles, answered⟩,
      (Store.matching_eq_none_iff answered).mp none, ?_⟩
    rcases History.onward_eq_ok onward with ⟨root, _⟩ | ⟨inner, known⟩
    · exact .inl root
    · exact .inr ⟨inner, parents, known⟩

theorem failsAt_iff : FailsAt configuration history store version fault ↔
    store.profilesOf version = .error fault ∨ ∃ profiles, store.profilesOf version = .ok profiles ∧
      matching? configuration profiles = none ∧ history.onward version = .error fault := by
  constructor
  · rintro (unreadable | ⟨readable, unmatched, unknown⟩)
    · exact .inl (Store.profilesOf_eq_error_iff.mpr unreadable)
    · obtain ⟨profiles, answered⟩ := Store.readable_iff.mp readable
      exact .inr ⟨profiles, answered, (Store.matching_eq_none_iff answered).mpr unmatched,
        History.onward_eq_error_iff.mpr unknown⟩
  · rintro (failed | ⟨profiles, answered, none, unknown⟩)
    · exact .reading (Store.profilesOf_eq_error_iff.mp failed)
    · exact .leaving (Store.readable_iff.mpr ⟨profiles, answered⟩)
        ((Store.matching_eq_none_iff answered).mp none) (History.onward_eq_error_iff.mp unknown)

theorem stop_eq_none (passes : Passes configuration history store version) :
    stop? configuration history store version = none := by
  obtain ⟨profiles, parents, answered, none, onward⟩ := passes_iff.mp passes
  simp only [stop?, answered, none, onward]

theorem stop_eq_error_iff : stop? configuration history store version = some (.error fault) ↔
    FailsAt configuration history store version fault := by
  rw [failsAt_iff, stop?]
  cases store.profilesOf version with
  | error other => simp
  | ok profiles =>
    simp only [Except.ok.injEq, exists_eq_left', reduceCtorEq, false_or]
    cases matching? configuration profiles with
    | some found => simp
    | none => cases history.onward version <;> simp

theorem stop_eq_ok_iff {reference : ProfileRef} {profile : Profile α} :
    stop? configuration history store version = some (.ok (reference, profile)) ↔
      store.Readable version ∧ store.IsFirstMatch configuration version reference profile := by
  rw [Store.readable_iff, stop?]
  cases answered : store.profilesOf version with
  | error other => simp
  | ok profiles =>
    rw [← Store.matching_eq_some_iff answered]
    simp only [Except.ok.injEq, exists_eq', true_and]
    cases matching? configuration profiles with
    | some found => simp
    | none => cases history.onward version <;> simp

/-- There is only one version at which a search can stop. -/
theorem Reaches.unique {another : VersionId}
    (reaches : Reaches configuration history store target version)
    (again : Reaches configuration history store target another)
    (stops : ¬ Passes configuration history store version)
    (stops' : ¬ Passes configuration history store another) : version = another := by
  obtain ⟨length, earlier, later, order, passed⟩ := reaches.order
  obtain ⟨length', earlier', later', order', passed'⟩ := again.order
  have initial : earlier ++ version :: later <+:
      history.breadthFirst target (max length length') :=
    order ▸ History.breadthFirst_prefix (Nat.le_max_left ..)
  have initial' : earlier' ++ another :: later' <+:
      history.breadthFirst target (max length length') :=
    order' ▸ History.breadthFirst_prefix (Nat.le_max_right ..)
  rcases eq_or_mem_of_prefix initial initial' with same | before | before
  · exact same
  · exact absurd (passed' version before reaches.other) stops
  · exact absurd (passed another before again.other) stops'

end Baseline

open Baseline

variable {α : Type} {configuration : Configuration} {history : History} {store : Store α}
  {target version : VersionId} {fault : Fault StoreError}

theorem SearchReach.started {frontier : Frontier} {inspected : List VersionId}
    (reach : SearchReach configuration history store target frontier inspected) :
    ∃ parents, history.parents target = .ok parents := by
  induction reach with
  | start answered => exact ⟨_, answered⟩
  | next _ _ _ _ ih => exact ih

/-- A search comes to a version after all that it has inspected and nothing else. -/
theorem SearchReach.reaches {seen rest inspected : List VersionId}
    (reach : SearchReach configuration history store target ⟨seen, version :: rest⟩ inspected) :
    Reaches configuration history store target version := by
  obtain ⟨length, later, _, order, _⟩ := reach.order
  refine ⟨reach.started, reach.other, length, target :: inspected, later, order, ?_⟩
  intro before member other
  exact passes_iff.mpr (reach.passed ((List.mem_cons.mp member).resolve_left other))

namespace Baseline

/-- A search that was started finds nothing and has gone on from all that it could come to, or
it ends as the one version tells at which it stops. -/
theorem find_stops (configuration : Configuration) (history : History) (store : Store α)
    (target : VersionId) :
    (∃ fault, history.parents target = .error fault ∧
      (find configuration history store target).alone = .error fault) ∨
    (∃ visited, (find configuration history store target).alone = .ok (.notFound visited) ∧
      ∀ version, Reaches configuration history store target version →
        Passes configuration history store version) ∨
    ∃ version answer visited, Reaches configuration history store target version ∧
      stop? configuration history store version = some answer ∧
      (find configuration history store target).alone =
        answer.map fun (reference, profile) => .found version reference profile visited := by
  have ended := find_ends configuration history store target
  generalize (find configuration history store target).alone = outcome at ended ⊢
  cases ended with
  | unstarted failed => exact .inl ⟨_, failed, rfl⟩
  | @exhausted seen inspected reach =>
    refine .inr (.inl ⟨_, rfl, fun version reaches => ?_⟩)
    obtain ⟨length, earlier, later, order, _⟩ := reaches.order
    obtain ⟨queued, record⟩ := reach.discovered
    rw [List.append_nil] at queued
    have listed : version ∈ history.breadthFirst target length :=
      order ▸ List.mem_append_right earlier (List.mem_cons_self ..)
    obtain ⟨steps, _, path⟩ := History.mem_breadthFirst.mp listed
    have followed := History.mem_of_closed ⟨inspected, rfl⟩ (queued.trans record) path
    exact passes_iff.mpr (reach.passed ((List.mem_cons.mp followed).resolve_left reaches.other))
  | @matched seen version rest inspected profiles reference profile reach read first =>
    refine .inr (.inr ⟨version, .ok (reference, profile), _, reach.reaches, ?_, rfl⟩)
    rw [stop?, read]
    dsimp only
    rw [first]
  | @unread seen version rest inspected fault reach failed =>
    refine .inr (.inr ⟨version, .error fault, 0, reach.reaches, ?_, rfl⟩)
    rw [stop?, failed]
  | @stranded seen version rest inspected profiles fault reach read unmatched failed =>
    refine .inr (.inr ⟨version, .error fault, 0, reach.reaches, ?_, rfl⟩)
    rw [stop?, read]
    dsimp only
    rw [unmatched]
    dsimp only
    rw [failed]

/-- Whatever a version that the search comes to makes it stop with, it ends with. -/
theorem Reaches.find_eq (reaches : Reaches configuration history store target version)
    {answer : Answer (ProfileRef × Profile α)}
    (stop : stop? configuration history store version = some answer) :
    ∃ visited, (find configuration history store target).alone =
      answer.map fun (reference, profile) => .found version reference profile visited := by
  have stops {version : VersionId} {answer : Answer (ProfileRef × Profile α)}
      (stop : stop? configuration history store version = some answer) :
      ¬ Passes configuration history store version := fun passes => by
    rw [stop_eq_none passes] at stop
    cases stop
  rcases Baseline.find_stops configuration history store target with
    ⟨fault, failed, _⟩ | ⟨_, _, passed⟩ | ⟨another, other, visited, again, stop', ended⟩
  · obtain ⟨parents, known⟩ := reaches.started
    rw [failed] at known
    cases known
  · exact absurd (passed version reaches) (stops stop)
  · obtain rfl := reaches.unique again (stops stop) (stops stop')
    rw [stop] at stop'
    cases stop'
    exact ⟨visited, ended⟩

/-- A search that begins with nothing cached fails exactly if the history does not know where
to begin, or if it comes to a version at which a call fails, and it fails as the first such
call does. It finds a profile exactly if it comes to a version of which all profiles can be
loaded and this one is the first match; what the history knows of that version, and what
would fail behind it, does not matter. -/
theorem find_fails_iff (configuration : Configuration) (history : History) (store : Store α)
    (target : VersionId) :
    (∀ fault, ((find configuration history store target).through .empty).1 = .error fault ↔
      history.parents target = .error fault ∨
        ∃ version, Reaches configuration history store target version ∧
          FailsAt configuration history store version fault) ∧
    ∀ version reference profile,
      (∃ visited, ((find configuration history store target).through .empty).1 =
        .ok (.found version reference profile visited)) ↔
      Reaches configuration history store target version ∧ store.Readable version ∧
        store.IsFirstMatch configuration version reference profile := by
  have ends := find_stops configuration history store target
  change (∀ fault, (find configuration history store target).alone = .error fault ↔ _) ∧
    ∀ version reference profile, (∃ visited, (find configuration history store target).alone =
      .ok (.found version reference profile visited)) ↔ _
  refine ⟨fun fault => ⟨fun failed => ?_, ?_⟩,
    fun version reference profile => ⟨fun ⟨visited, found⟩ => ?_, fun ⟨reaches, first⟩ => ?_⟩⟩
  · rw [failed] at ends
    rcases ends with ⟨other, unknown, same⟩ | ⟨_, absent, _⟩ |
      ⟨version, answer, _, reaches, stop, same⟩
    · cases same
      exact .inl unknown
    · cases absent
    · cases answer with
      | ok found => cases same
      | error other =>
        cases same
        exact .inr ⟨version, reaches, stop_eq_error_iff.mp stop⟩
  · rintro (unknown | ⟨version, reaches, fails⟩)
    · rw [alone_find, unknown]
      rfl
    · obtain ⟨_, ended⟩ := reaches.find_eq (stop_eq_error_iff.mpr fails)
      exact ended
  · rw [found] at ends
    rcases ends with ⟨_, _, failed⟩ | ⟨_, absent, _⟩ | ⟨another, answer, _, reaches, stop, same⟩
    · cases failed
    · cases absent
    · cases answer with
      | error fault => cases same
      | ok entry =>
        cases same
        exact ⟨reaches, stop_eq_ok_iff.mp stop⟩
  · exact reaches.find_eq (stop_eq_ok_iff.mpr first)

end Baseline

end ProfileDrift
