import ProfileDrift.Proofs.AncestorOrder
import ProfileDrift.Proofs.ContentAddress

namespace ProfileDrift.Archive

section Replies

variable (archive : Archive)

/-- The references that inserts are answered with, one after the other, each with the version
that its profile was hung on. -/
def replies (archive : Archive) :
    List (VersionId × Profile Float) → List (VersionId × ProfileRef)
  | [] => []
  | (version, profile) :: rest =>
    (version, (archive.insert version profile).2) ::
      (archive.insert version profile).1.replies rest

/-- The references among replies that were told for one version. -/
def toldFor (version : VersionId) (replies : List (VersionId × ProfileRef)) : List ProfileRef :=
  (replies.filter (·.1 = version)).map (·.2)

/-- An answer depends on the profile alone and not on what is kept already. -/
theorem replies_eq (inserts : List (VersionId × Profile Float)) :
    archive.replies inserts = inserts.map fun (version, profile) => (version, profile.address) := by
  induction inserts generalizing archive with
  | nil => rfl
  | cons insert inserts ih =>
    obtain ⟨version, profile⟩ := insert
    rw [replies, ih]
    rfl

theorem insertAll_concat (inserts : List (VersionId × Profile Float)) (version : VersionId)
    (profile : Profile Float) :
    archive.insertAll (inserts ++ [(version, profile)]) =
      ((archive.insertAll inserts).insert version profile).1 := by
  rw [insertAll, List.foldl_append]
  rfl

theorem mem_toldFor {version : VersionId} {replies : List (VersionId × ProfileRef)}
    {reference : ProfileRef} :
    reference ∈ toldFor version replies ↔ (version, reference) ∈ replies := by
  simp [toldFor]

/-- An insert puts its reference at the end of the listing of its version unless it is there
already. -/
theorem listing_insert (version : VersionId) (profile : Profile Float) :
    (archive.insert version profile).1.listing version =
      archive.listing version ++
        if (archive.listing version).contains profile.address then [] else [profile.address] := by
  change ((put archive.index version _).lookup version).getD [] = _
  rw [lookup_put, if_pos rfl, Option.getD_some]
  split
  · exact (List.append_nil _).symm
  · rfl

/-- A version lists the references that were told for it, each where it first came up. -/
theorem listing_insertAll (inserts : List (VersionId × Profile Float)) (version : VersionId) :
    (empty.insertAll inserts).listing version =
      (toldFor version (empty.replies inserts)).eraseDups := by
  induction inserts using List.reverseRecOn with
  | nil => rfl
  | append_singleton inserts insert ih =>
    obtain ⟨hung, profile⟩ := insert
    rw [replies_eq] at ih ⊢
    rw [insertAll_concat, List.map_append, toldFor, List.filter_append, List.map_append, ← toldFor]
    by_cases here : hung = version
    · subst here
      have last : toldFor hung [(hung, profile.address)] = [profile.address] := by
        simp [toldFor]
      rw [listing_insert, ih, List.map_singleton, ← toldFor, last, eraseDups_concat]
      simp only [List.contains_iff_mem, List.mem_eraseDups]
    · have last : toldFor version [(hung, profile.address)] = [] := by
        simp [toldFor, here]
      rw [listing_insert_of_ne _ _ _ (Ne.symm here), ih, List.map_singleton, ← toldFor, last,
        List.append_nil]

end Replies

/-- The last profile with a reference is one after which no other with the reference comes. -/
theorem split_of_lastUnder? {reference : ProfileRef} {inserts : List (VersionId × Profile Float)}
    {profile : Profile Float} (last : lastUnder? reference inserts = some profile) :
    ∃ earlier version later, inserts = earlier ++ (version, profile) :: later ∧
      profile.address = reference ∧ ∀ insert ∈ later, insert.2.address ≠ reference := by
  obtain ⟨matched, after, before, split, unmatched⟩ := List.find?_eq_some_iff_append.mp last
  rw [← List.map_reverse, List.map_eq_append_iff] at split
  obtain ⟨later, rest, split, rfl, mapped⟩ := split
  obtain ⟨⟨version, _⟩, earlier, rfl, rfl, rfl⟩ := List.map_eq_cons_iff.mp mapped
  refine ⟨earlier.reverse, version, later.reverse, ?_, (of_decide_eq_true matched).symm,
    fun insert member same => ?_⟩
  · rw [← List.reverse_reverse inserts, split]
    simp
  · have other := unmatched insert.2 (List.mem_map_of_mem (List.mem_reverse.mp member))
    simp [same] at other

theorem exists_lastUnder? {inserts : List (VersionId × Profile Float)} {version : VersionId}
    {profile : Profile Float} (inserted : (version, profile) ∈ inserts) :
    ∃ last, lastUnder? profile.address inserts = some last := by
  refine Option.isSome_iff_exists.mp (List.find?_isSome.mpr ⟨profile, ?_, decide_eq_true rfl⟩)
  exact List.mem_reverse.mpr (List.mem_map_of_mem inserted)

theorem object?_of_load {archive : Archive} {reference : ProfileRef} {profile : Profile Float}
    (loaded : archive.store.load reference = .ok profile) :
    archive.object? reference = some profile := by
  rw [store] at loaded
  dsimp only at loaded
  split at loaded
  · cases loaded
    assumption
  · cases loaded

section AfterInserts

variable {inserts : List (VersionId × Profile Float)}

theorem mem_listing_insertAll {version : VersionId} {reference : ProfileRef} :
    reference ∈ (empty.insertAll inserts).listing version ↔
      ∃ profile, (version, profile) ∈ inserts ∧ profile.address = reference := by
  rw [listing_insertAll, List.mem_eraseDups, mem_toldFor, replies_eq, List.mem_map]
  constructor
  · rintro ⟨⟨_, profile⟩, inserted, same⟩
    cases same
    exact ⟨profile, inserted, rfl⟩
  · rintro ⟨profile, inserted, rfl⟩
    exact ⟨(version, profile), inserted, rfl⟩

theorem object?_eq_lastUnder? (reference : ProfileRef) :
    (empty.insertAll inserts).object? reference = lastUnder? reference inserts :=
  (object?_insertAll inserts empty reference).trans (Option.or_none ..)

theorem load_of_listed {version : VersionId} {reference : ProfileRef}
    (listed : reference ∈ (empty.insertAll inserts).listing version) :
    ∃ profile, (empty.insertAll inserts).store.load reference = .ok profile := by
  obtain ⟨profile, inserted, rfl⟩ := mem_listing_insertAll.mp listed
  obtain ⟨last, found⟩ := exists_lastUnder? inserted
  exact ⟨last, load_of_object? ((object?_eq_lastUnder? _).trans found)⟩

theorem split_of_load {reference : ProfileRef} {profile : Profile Float}
    (loaded : (empty.insertAll inserts).store.load reference = .ok profile) :
    ∃ earlier version later, inserts = earlier ++ (version, profile) :: later ∧
      profile.address = reference ∧ ∀ insert ∈ later, insert.2.address ≠ reference :=
  split_of_lastUnder? ((object?_eq_lastUnder? reference).symm.trans (object?_of_load loaded))

/-- A profile that a version has already does not show in its listing a second time. -/
theorem listing_insert_again {version : VersionId} {profile : Profile Float}
    (inserted : (version, profile) ∈ inserts) (other : VersionId) :
    ((empty.insertAll inserts).insert version profile).1.listing other =
      (empty.insertAll inserts).listing other := by
  by_cases here : other = version
  · subst here
    have known := mem_listing_insertAll.mpr ⟨profile, inserted, rfl⟩
    rw [listing_insert, if_pos (List.contains_iff_mem.mpr known), List.append_nil]
  · exact listing_insert_of_ne _ _ _ here

end AfterInserts

/-- What there is after any inserts. A version lists the references that were told for it,
each once and in the order in which they first came up, and all of them can be loaded. What
is loaded has the reference for its address and is what was inserted last with this answer.
A further insert shows in the listing of its own version only, and not even there if the same
profile was hung on the version before. -/
theorem insertAll_listings (inserts : List (VersionId × Profile Float)) :
    let archive := empty.insertAll inserts
    let replies := empty.replies inserts
    (∀ version, ∃ references, archive.store.list version = .ok references ∧
      references.Nodup ∧ references = (toldFor version replies).eraseDups ∧
      (∀ reference, reference ∈ references ↔ (version, reference) ∈ replies) ∧
      ∀ reference ∈ references, ∃ profile, archive.store.load reference = .ok profile) ∧
    (∀ reference profile, archive.store.load reference = .ok profile →
      (Document.ofProfile profile).address = reference ∧
        ∃ earlier version later, inserts = earlier ++ (version, profile) :: later ∧
          ((empty.insertAll earlier).insert version profile).2 = reference ∧
          ∀ reply ∈ (empty.insertAll (earlier ++ [(version, profile)])).replies later,
            reply.2 ≠ reference) ∧
    (∀ version profile other, other ≠ version →
      (archive.insert version profile).1.store.list other = archive.store.list other) ∧
    ∀ earlier version profile later, inserts = earlier ++ (version, profile) :: later →
      (∀ other, (archive.insert version profile).1.store.list other = archive.store.list other) ∧
        (archive.insert version profile).2 = ((empty.insertAll earlier).insert version profile).2 := by
  intro archive replies
  refine ⟨fun version => ⟨_, rfl, ?_, listing_insertAll inserts version, fun reference => ?_,
      fun reference listed => load_of_listed listed⟩,
    fun reference profile loaded => ?_,
    fun version profile other apart => congrArg _ (listing_insert_of_ne archive version profile apart),
    ?_⟩
  · rw [listing_insertAll]
    exact nodup_eraseDups _
  · rw [listing_insertAll, List.mem_eraseDups, mem_toldFor]
  · obtain ⟨earlier, version, later, split, address, others⟩ := split_of_load loaded
    refine ⟨address, earlier, version, later, split, address, fun reply answered => ?_⟩
    rw [replies_eq] at answered
    obtain ⟨insert, after, rfl⟩ := List.mem_map.mp answered
    exact others insert after
  · rintro earlier version profile later split
    have inserted : (version, profile) ∈ inserts := by
      rw [split]
      exact List.mem_append_right _ List.mem_cons_self
    exact ⟨fun other => congrArg _ (listing_insert_again inserted other), rfl⟩

/-- Two profiles on one version, the first of them hung on it twice and on another version in
between. -/
theorem insertAll_listings_samples :
    let small := sample "small" [2.0]
    let large := sample "large" [2.0]
    let inserts := [(⟨"c1"⟩, small), (⟨"c1"⟩, large), (⟨"c2"⟩, small), (⟨"c1"⟩, small)]
    let archive := empty.insertAll inserts
    (∃ references, archive.store.list ⟨"c1"⟩ = .ok references ∧ references.Nodup ∧
      references = [small.address, large.address, small.address].eraseDups) ∧
    (∃ profile, archive.store.load small.address = .ok profile ∧
      (Document.ofProfile profile).address = small.address) ∧
    (archive.insert ⟨"c2"⟩ large).1.store.list ⟨"c1"⟩ = archive.store.list ⟨"c1"⟩ ∧
    (archive.insert ⟨"c1"⟩ large).1.store.list ⟨"c1"⟩ = archive.store.list ⟨"c1"⟩ := by
  intro small large inserts archive
  obtain ⟨listings, loads, others, again⟩ := insertAll_listings inserts
  obtain ⟨references, listed, distinct, order, member, loadable⟩ := listings ⟨"c1"⟩
  have held : small.address ∈ references := (member _).mpr (List.mem_cons_self ..)
  obtain ⟨profile, loaded⟩ := loadable _ held
  have different : (⟨"c1"⟩ : VersionId) ≠ ⟨"c2"⟩ := by decide
  obtain ⟨unchanged, _⟩ := again [(⟨"c1"⟩, small)] ⟨"c1"⟩ large
    [(⟨"c2"⟩, small), (⟨"c1"⟩, small)] rfl
  exact ⟨⟨references, listed, distinct, order⟩, ⟨profile, loaded, (loads _ _ loaded).1⟩,
    others _ large _ different, unchanged ⟨"c1"⟩⟩

end ProfileDrift.Archive
