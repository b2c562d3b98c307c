import ProfileDrift.Proofs.ArchiveListing
import ProfileDrift.Proofs.ArchiveState
import ProfileDrift.Proofs.LoneCheck
import ProfileDrift.Proofs.SearchReach
import ProfileDrift.Scalar.Blocks

namespace ProfileDrift

/-- Two histories with their stores tell the same about a target and about whatever
can be reached from it: the parents and whether it is a root, the listing, and the
profile under each listed reference. Faults count as answers. -/
structure SharedPast {α : Type} (history : History) (store : Store α) (other : History)
    (another : Store α) (target : VersionId) : Prop where
  parents : ∀ length version, history.Path target length version →
    history.parents version = other.parents version
  isRoot : ∀ length version, history.Path target length version →
    history.isRoot version = other.isRoot version
  list : ∀ length version, history.Path target length version →
    store.list version = another.list version
  load : ∀ length version references, history.Path target length version →
    store.list version = .ok references → ∀ reference ∈ references,
      store.load reference = another.load reference

theorem History.mem_edges_of_onward {history : History} {target version parent : VersionId}
    {parents : List VersionId} (answered : history.onward version = .ok parents)
    (member : parent ∈ parents) : parent ∈ history.edges target version := by
  by_cases atTarget : version = target
  · subst atTarget
    rcases onward_eq_ok answered with ⟨_, none⟩ | ⟨_, parentsAnswered⟩
    · rw [none] at member
      exact absurd member List.not_mem_nil
    · rwa [edges_target parentsAnswered]
  · rwa [edges_of_onward atTarget answered]

namespace SharedPast

variable {α : Type} {history other : History} {store another : Store α} {target : VersionId}

theorem profilesOf (shared : SharedPast history store other another target) {length : Nat}
    {version : VersionId} (path : history.Path target length version) :
    store.profilesOf version = another.profilesOf version := by
  have sameList := shared.list length version path
  unfold Store.profilesOf
  rw [← sameList]
  cases listed : store.list version with
  | error fault => rfl
  | ok references =>
    have sameLoad := shared.load length version references path listed
    change (references.mapM _ : Answer _) = references.mapM _
    clear listed sameList
    induction references with
    | nil => rfl
    | cons reference rest ih =>
      rw [List.mapM_cons, List.mapM_cons, sameLoad reference (List.mem_cons_self ..),
        ih fun later member => sameLoad later (List.mem_cons_of_mem _ member)]

theorem onward (shared : SharedPast history store other another target) {length : Nat}
    {version : VersionId} (path : history.Path target length version) :
    history.onward version = other.onward version := by
  unfold History.onward
  rw [shared.isRoot length version path, shared.parents length version path]

open Baseline

/-- Two searches that go over the same past stay in step: they inspect the same
version, find the same under it and go on to the same versions. -/
theorem alone_search (shared : SharedPast history store other another target)
    (configuration : Configuration) (frontier : Frontier) (visited : Nat)
    (within : ∀ version ∈ frontier.queue, ∃ length, history.Path target length version) :
    (search configuration history store frontier visited).alone =
      (search configuration other another frontier visited).alone := by
  induction frontier, visited using search_induction history with
  | exhausted seen visited =>
    rw [search, search]
  | inspected seen version rest visited ih =>
    obtain ⟨length, path⟩ := within version (List.mem_cons_self ..)
    rw [alone_search_cons, alone_search_cons, shared.profilesOf path]
    congr 1
    funext profiles
    congr 1
    rw [shared.onward path]
    cases answered : other.onward version with
    | error fault => rfl
    | ok parents =>
      have here := (shared.onward path).trans answered
      refine ih parents here fun above member => ?_
      rcases Frontier.mem_queue_meetAll member with queued | met
      · exact within above (List.mem_cons_of_mem _ queued)
      · exact ⟨length + 1, .edge path (History.mem_edges_of_onward here met)⟩

theorem alone_find (shared : SharedPast history store other another target)
    (configuration : Configuration) :
    (find configuration history store target).alone =
      (find configuration other another target).alone := by
  rw [Baseline.alone_find, Baseline.alone_find, ← shared.parents 0 target .start]
  cases answered : history.parents target with
  | error fault => rfl
  | ok parents =>
    refine shared.alone_search configuration _ 0 fun version member => ?_
    rcases Frontier.mem_queue_meetAll member with queued | met
    · exact absurd queued List.not_mem_nil
    · exact ⟨1, .edge .start (History.edges_target answered ▸ met)⟩

theorem alone_checkVersion [Scalar α] [Tally α] [Hundredths α]
    (shared : SharedPast history store other another target) (settings : Settings α) :
    (settings.checkVersion history store target).alone =
      (settings.checkVersion other another target).alone := by
  have same : ∀ entry : ProfileRef × Profile α,
      (settings.checkProfile history store target entry.1 entry.2).alone =
        (settings.checkProfile other another target entry.1 entry.2).alone := by
    intro entry
    rw [Settings.alone_checkProfile, Settings.alone_checkProfile, shared.alone_find]
  rw [Settings.alone_checkVersion, Settings.alone_checkVersion, shared.profilesOf .start]
  simp only [same]

end SharedPast

/-- A version that cannot be reached from the target may be added with any parents, or
given other ones. -/
theorem VersionGraph.sharedPast_add {α : Type} (graph : VersionGraph) (store : Store α)
    {target added : VersionId} (parents : List VersionId)
    (unrelated : ∀ length, ¬ graph.history.Path target length added) :
    SharedPast graph.history store (graph.add added parents).history store target := by
  have same : ∀ length version, graph.history.Path target length version →
      graph.parents? version = (graph.add added parents).parents? version := by
    intro length version path
    have apart : version ≠ added := fun atAdded => unrelated length (atAdded ▸ path)
    exact (graph.parents?_add_of_ne parents apart).symm
  exact {
    parents := fun length version path => congrArg (answer version) (same length version path)
    isRoot := fun length version path => by
      dsimp only [history]
      rw [same length version path]
    list := fun _ _ _ => rfl
    load := fun _ _ _ _ _ _ _ => rfl }

/-- A profile may be inserted for a version that cannot be reached from the target. If
its address is listed for one that can be reached, it must be there already. -/
theorem Archive.sharedPast_insert (archive : Archive) (history : History)
    {target added : VersionId} {profile : Profile Float}
    (unrelated : ∀ length, ¬ history.Path target length added)
    (kept : ∀ length version, history.Path target length version →
      profile.address ∈ archive.listing version → archive.object? profile.address = some profile) :
    SharedPast history archive.store history (archive.insert added profile).1.store target where
  parents _ _ _ := rfl
  isRoot _ _ _ := rfl
  list length version path := by
    have apart : version ≠ added := fun atAdded => unrelated length (atAdded ▸ path)
    exact congrArg Except.ok (archive.listing_insert_of_ne added profile apart).symm
  load length version references path listed reference member := by
    cases listed
    have same : archive.object? reference = (archive.insert added profile).1.object? reference := by
      rw [object?_insert]
      split
      · rename_i atAddress
        rw [atAddress] at member ⊢
        exact kept length version path member
      · rfl
    unfold store
    dsimp only
    rw [same]

/-- The outcome of a check depends on the checked version and on what can be reached
from it alone. So it stays as it is when another version is added to the graph or
another profile to the archive. -/
theorem Settings.checkVersion_local [Tally Float] (settings : Settings Float) (target : VersionId) :
    (∀ history store other another, SharedPast history store other another target →
      ((settings.checkVersion history store target).through .empty).1 =
        ((settings.checkVersion other another target).through .empty).1) ∧
    (∀ (graph : VersionGraph) store added parents,
      (∀ length, ¬ graph.history.Path target length added) →
        ((settings.checkVersion graph.history store target).through .empty).1 =
          ((settings.checkVersion (graph.add added parents).history store target).through .empty).1) ∧
    ∀ history (archive : Archive) added profile,
      (∀ length, ¬ history.Path target length added) →
      (∀ length version, history.Path target length version →
        profile.address ∈ archive.listing version →
          archive.object? profile.address = some profile) →
      ((settings.checkVersion history archive.store target).through .empty).1 =
        ((settings.checkVersion history (archive.insert added profile).1.store target).through
          .empty).1 :=
  ⟨fun _ _ _ _ shared => shared.alone_checkVersion settings,
    fun graph store _ parents unrelated =>
      (graph.sharedPast_add store parents unrelated).alone_checkVersion settings,
    fun history archive _ _ unrelated kept =>
      (archive.sharedPast_insert history unrelated kept).alone_checkVersion settings⟩

/-- A tip above a base. -/
def stem : VersionGraph := ⟨[(⟨"tip"⟩, [⟨"base"⟩]), (⟨"base"⟩, [])]⟩

/-- Nothing leads from the tip to the side if all that is met above the tip is the base. -/
theorem not_path_side {graph : VersionGraph}
    (closed : [⟨"tip"⟩, ⟨"base"⟩] = (⟨"tip"⟩ ::
      [⟨"tip"⟩, ⟨"base"⟩].flatMap (graph.history.edges ⟨"tip"⟩)).eraseDups) (length : Nat) :
    ¬ graph.history.Path ⟨"tip"⟩ length ⟨"side"⟩ := by
  intro path
  have inside := History.mem_of_closed ⟨[⟨"base"⟩], rfl⟩ closed path
  revert inside
  decide

/-- A check of a version with one profile and one parent, which has one profile, too, and of the
same configuration. -/
theorem Settings.alone_checkVersion_parent {α : Type} [Scalar α] [Tally α] [Hundredths α]
    (settings : Settings α) {history : History} {store : Store α} {version parent : VersionId}
    {above below : ProfileRef} {target baseline : Profile α} {reports : List (ChangeReport α)}
    (parents : history.parents version = .ok [parent]) (apart : parent ≠ version)
    (measured : store.profilesOf version = .ok [(above, target)])
    (before : store.profilesOf parent = .ok [(below, baseline)])
    (same : baseline.configuration = target.configuration)
    (compared : settings.checkPair baseline target = .ok reports) :
    (settings.checkVersion history store version).alone =
      .ok ⟨version, [⟨target.configuration, above, parent, below, reports⟩], []⟩ := by
  have queued : (Frontier.start version).meetAll [parent] = ⟨[parent, version], [parent]⟩ :=
    if_neg (by simpa [Frontier.start] using apart)
  have found : (Baseline.find target.configuration history store version).alone =
      .ok (.found parent below baseline 1) := by
    rw [Baseline.alone_find, parents]
    change (Baseline.search _ _ _ ((Frontier.start version).meetAll [parent]) 0).alone = _
    rw [queued, Baseline.alone_search_cons, before]
    have first : Baseline.matching? target.configuration [(below, baseline)] =
        some (below, baseline) := by
      rw [Baseline.matching?, List.find?_singleton, if_pos (decide_eq_true same)]
    change Baseline.foundOr _ _ _ (Baseline.matching? _ _) = _
    rw [first]
    rfl
  have checked : (settings.checkProfile history store version above target).alone =
      .ok (.checked ⟨target.configuration, above, parent, below, reports⟩) := by
    have decided : settings.verdict above target (.found parent below baseline 1) =
        .ok (.checked ⟨target.configuration, above, parent, below, reports⟩) := by
      rw [verdict, compared]
    rw [alone_checkProfile, found]
    exact decided
  rw [alone_checkVersion, measured]
  change ([(above, target)].mapM _ >>= _ : Except _ _) = _
  rw [List.mapM_cons, checked]
  rfl

namespace Archive

/-- An archive in which the base and the tip each have a profile. -/
def onStem (base tip : Profile Float) : Archive :=
  empty.insertAll [(⟨"base"⟩, base), (⟨"tip"⟩, tip)]

/-- A program that was measured at one size, with nothing but that told of it. -/
def ofSize (workload : String) : Profile Float := .blank ⟨"time", "./bin", "", workload, []⟩ "time"

theorem profilesOf_of_listing {archive : Archive} {version : VersionId} {reference : ProfileRef}
    {profile : Profile Float} (listed : archive.listing version = [reference])
    (found : archive.object? reference = some profile) :
    archive.store.profilesOf version = .ok [(reference, profile)] := by
  have loaded := load_of_object? found
  have answered : archive.store.list version = .ok [reference] := congrArg Except.ok listed
  simp only [Store.profilesOf, answered, bind, Except.bind, List.mapM_cons, loaded]
  rfl

section Stem

variable {base tip : Profile Float} (apart : base.address ≠ tip.address)

include apart in
theorem object?_onStem :
    (onStem base tip).object? base.address = some base ∧
      (onStem base tip).object? tip.address = some tip := by
  have under (reference : ProfileRef) : (onStem base tip).object? reference =
      if reference = tip.address then some tip
      else if reference = base.address then some base else none := by
    rw [onStem]
    exact (object?_insert _ _ _ reference).trans (by rw [object?_insert]; rfl)
  rw [under, under, if_neg apart, if_pos rfl, if_pos rfl]
  exact ⟨rfl, rfl⟩

theorem listing_onStem (base tip : Profile Float) :
    (onStem base tip).listing ⟨"base"⟩ = [base.address] ∧
      (onStem base tip).listing ⟨"tip"⟩ = [tip.address] :=
  ⟨listing_insertAll _ _, listing_insertAll _ _⟩

include apart in
theorem profilesOf_onStem :
    (onStem base tip).store.profilesOf ⟨"base"⟩ = .ok [(base.address, base)] ∧
      (onStem base tip).store.profilesOf ⟨"tip"⟩ = .ok [(tip.address, tip)] := by
  obtain ⟨below, above⟩ := listing_onStem base tip
  obtain ⟨first, second⟩ := object?_onStem apart
  exact ⟨profilesOf_of_listing below first, profilesOf_of_listing above second⟩

include apart in
/-- A profile that is hung on the side takes the place of the one of the base if it has the same
address. -/
theorem profilesOf_onStem_insert {other : Profile Float} (same : other.address = base.address) :
    ((onStem base tip).insert ⟨"side"⟩ other).1.store.profilesOf ⟨"base"⟩ =
        .ok [(base.address, other)] ∧
      ((onStem base tip).insert ⟨"side"⟩ other).1.store.profilesOf ⟨"tip"⟩ =
        .ok [(tip.address, tip)] := by
  obtain ⟨below, above⟩ := listing_onStem base tip
  have kept := (object?_onStem apart).2
  refine ⟨profilesOf_of_listing ?_ ?_, profilesOf_of_listing ?_ ?_⟩
  · rw [listing_insert_of_ne _ _ _ (by decide), below]
  · rw [object?_insert, if_pos same.symm]
  · rw [listing_insert_of_ne _ _ _ (by decide), above]
  · rw [object?_insert, if_neg (same ▸ apart.symm), kept]

end Stem

end Archive

open Archive (ofSize onStem)
open scoped Lanes

theorem Settings.checkVersion_local_stem :
    let settings : Settings Float := .default
    let archive := onStem (ofSize "small") (ofSize "large")
    (∀ length, ¬ stem.history.Path ⟨"tip"⟩ length ⟨"side"⟩) ∧
    SharedPast stem.history archive.store (stem.add ⟨"side"⟩ [⟨"base"⟩]).history
      archive.store ⟨"tip"⟩ ∧
    ((settings.checkVersion stem.history archive.store ⟨"tip"⟩).through .empty).1 =
      ((settings.checkVersion (stem.add ⟨"side"⟩ [⟨"base"⟩]).history archive.store
        ⟨"tip"⟩).through .empty).1 ∧
    ((settings.checkVersion stem.history archive.store ⟨"tip"⟩).through .empty).1 =
      ((settings.checkVersion (stem.add ⟨"side"⟩ []).history archive.store
        ⟨"tip"⟩).through .empty).1 ∧
    (ofSize "small").address ∈ archive.listing ⟨"base"⟩ ∧
    ∀ added ∈ [ofSize "small", ofSize "medium"],
      ((settings.checkVersion stem.history archive.store ⟨"tip"⟩).through .empty).1 =
        ((settings.checkVersion stem.history (archive.insert ⟨"side"⟩ added).1.store
          ⟨"tip"⟩).through .empty).1 := by
  intro settings archive
  have unrelated := @not_path_side stem (by decide)
  have apart : (ofSize "small").address ≠ (ofSize "large").address :=
    Profile.address_ne_of_sha256_ne (by decide +kernel)
  have fresh : (ofSize "medium").address ≠ (ofSize "small").address ∧
      (ofSize "medium").address ≠ (ofSize "large").address :=
    ⟨Profile.address_ne_of_sha256_ne (by decide +kernel),
      Profile.address_ne_of_sha256_ne (by decide +kernel)⟩
  obtain ⟨sameOutcome, added, inserted⟩ := Settings.checkVersion_local settings ⟨"tip"⟩
  have shared := stem.sharedPast_add archive.store [⟨"base"⟩] unrelated
  refine ⟨unrelated, shared, sameOutcome _ _ _ _ shared, added _ _ _ [] unrelated, ?_, ?_⟩
  · rw [(Archive.listing_onStem _ _).1]
    exact List.mem_singleton.mpr rfl
  · rw [List.forall_mem_cons, List.forall_mem_singleton]
    refine ⟨inserted _ _ _ _ unrelated fun _ _ _ _ => (Archive.object?_onStem apart).1,
      inserted _ _ _ _ unrelated fun _ version _ listed => ?_⟩
    obtain ⟨profile, member, same⟩ := Archive.mem_listing_insertAll.mp listed
    simp only [List.mem_cons, Prod.mk.injEq, List.not_mem_nil, or_false] at member
    rcases member with ⟨-, rfl⟩ | ⟨-, rfl⟩
    · exact absurd same.symm fresh.1
    · exact absurd same.symm fresh.2

/-- A level that is known from somewhere on. -/
def plateau (start height : Float) : Profile Float :=
  ((ofSize "small").withResource "main" [⟨1.0, 1.0⟩]).withModels "main"
    [⟨.constant, [height], 1.0, start, 1.0⟩]

theorem configuration_plateau (start height : Float) :
    (plateau start height).configuration = (ofSize "small").configuration := rfl

/-- The premise on addresses is needed. A profile whose numbers are told by the same text, with
null for one that is not finite, takes the place of the profile of the base, though it is hung on
a version beside it. It makes the check of the tip, which could not tell anything, find a
degradation. -/
theorem Settings.checkVersion_lookalike :
    let settings : Settings Float := ⟨.all, [.always "int"]⟩
    let graph := stem.add ⟨"side"⟩ [⟨"base"⟩]
    let archive := onStem (plateau (1.0 / 0.0) 1.0) (plateau 0.0 3.0)
    let kinds (archive : Archive) :=
      ((settings.checkVersion graph.history archive.store ⟨"tip"⟩).through .empty).1.map
        fun check => check.reports.map (·.kind)
    (∀ length, ¬ graph.history.Path ⟨"tip"⟩ length ⟨"side"⟩) ∧
      kinds archive = .ok [.unknown] ∧
      kinds (archive.insert ⟨"side"⟩ (plateau (0.0 / 0.0) 1.0)).1 = .ok [.degradation] := by
  intro settings graph archive kinds
  have apart : (plateau (1.0 / 0.0) 1.0).address ≠ (plateau 0.0 3.0).address :=
    Profile.address_ne_of_sha256_ne (by decide +kernel)
  have same : (plateau (0.0 / 0.0) 1.0).address = (plateau (1.0 / 0.0) 1.0).address :=
    congrArg (fun chars => ProfileRef.mk (Digest.hexDigest (String.ofList chars)))
      (by decide +kernel)
  have parents : graph.history.parents ⟨"tip"⟩ = .ok [⟨"base"⟩] := by decide
  have compared (start : Float) :
      settings.checkPair (plateau start 1.0) (plateau 0.0 3.0) =
        .ok [(Method.integral 0.10 Method.usualChange).compare (plateau start 1.0)
          (plateau 0.0 3.0) "main"] := rfl
  have checked {archive : Archive} {reference reference' : ProfileRef} {start : Float}
      (above : archive.store.profilesOf ⟨"tip"⟩ = .ok [(reference', plateau 0.0 3.0)])
      (below : archive.store.profilesOf ⟨"base"⟩ = .ok [(reference, plateau start 1.0)]) :
      kinds archive = .ok [((Method.integral 0.10 Method.usualChange).compare (plateau start 1.0)
        (plateau 0.0 3.0) "main").kind] := by
    have configured := (configuration_plateau start 1.0).trans (configuration_plateau 0.0 3.0).symm
    have run := alone_checkVersion_parent settings parents (by decide) above below configured
      (compared start)
    exact congrArg (Except.map fun check => check.reports.map (·.kind)) run
  obtain ⟨below, above⟩ := Archive.profilesOf_onStem apart
  obtain ⟨below', above'⟩ := Archive.profilesOf_onStem_insert apart same
  refine ⟨not_path_side (by decide), (checked above below).trans ?_,
    (checked above' below').trans ?_⟩
  · exact congrArg (fun kind => Except.ok [kind]) (by decide +kernel)
  · exact congrArg (fun kind => Except.ok [kind]) (by decide +kernel)

end ProfileDrift
