import Mathlib.Algebra.Order.Floor.Div
import ProfileDrift.Check.Batch
import ProfileDrift.Proofs.CacheTransparency

namespace ProfileDrift

section Chunks

variable {β γ : Type} {size : Nat} (positive : 0 < size) {work : List β → List γ}

theorem chunks_of_ne_nil {items : List β} (some : items ≠ []) :
    chunks size positive items = items.take size :: chunks size positive (items.drop size) := by
  cases items with
  | nil => exact absurd rfl some
  | cons item rest => rw [chunks]

theorem length_flatMap_chunks (lengths : ∀ piece, (work piece).length = piece.length)
    (items : List β) : ((chunks size positive items).flatMap work).length = items.length := by
  induction items using chunks.induct size positive with
  | case1 => simp [chunks]
  | case2 item rest ih =>
    rw [chunks_of_ne_nil positive (List.cons_ne_nil item rest), List.flatMap_cons,
      List.length_append, lengths, ih, ← List.length_append, List.take_append_drop]

/-- Where the work on a chunk gives one result for each of its items, the result at an
index comes from the chunk into which the index falls. -/
theorem getElem?_flatMap_chunks (lengths : ∀ piece, (work piece).length = piece.length)
    {items : List β} {index : Nat} (inside : index < items.length) :
    ((chunks size positive items).flatMap work)[index]? =
      (work ((items.drop (index / size * size)).take size))[index % size]? := by
  induction items using chunks.induct size positive generalizing index with
  | case1 => exact absurd inside (Nat.not_lt_zero index)
  | case2 item rest ih =>
    rw [chunks_of_ne_nil positive (List.cons_ne_nil item rest), List.flatMap_cons]
    generalize item :: rest = items at ih inside ⊢
    have first : (work (items.take size)).length = min size items.length := by
      rw [lengths, List.length_take]
    rcases Nat.lt_or_ge index size with here | there
    · rw [List.getElem?_append_left (by omega), Nat.div_eq_of_lt here, Nat.mod_eq_of_lt here,
        Nat.zero_mul, List.drop_zero]
    · have later : index - size < (items.drop size).length := by
        rw [List.length_drop]
        omega
      have whole : (work (items.take size)).length = size := by omega
      have quotient : index / size = (index - size) / size + 1 :=
        Nat.div_eq_sub_div positive there
      rw [List.getElem?_append_right (by omega), whole, ih later, List.drop_drop, quotient,
        Nat.add_mul, Nat.one_mul, Nat.add_comm size, ← Nat.mod_eq_sub_mod there]

include positive in
theorem getElem?_chunk (items : List β) (index : Nat) :
    ((items.drop (index / size * size)).take size)[index % size]? = items[index]? := by
  rw [List.getElem?_take_of_lt (Nat.mod_lt index positive), List.getElem?_drop, Nat.mul_comm,
    Nat.div_add_mod]

include positive in
/-- What stands in the chunk into which an index falls is what stands at the indices
that fall into it. -/
theorem mem_chunk_iff {items : List β} {index : Nat} {item : β} :
    item ∈ (items.drop (index / size * size)).take size ↔
      ∃ other, items[other]? = some item ∧ other / size = index / size := by
  rw [List.mem_iff_getElem?]
  constructor
  · rintro ⟨place, present⟩
    rw [List.getElem?_take] at present
    split at present
    · rename_i within
      rw [List.getElem?_drop] at present
      refine ⟨_, present, ?_⟩
      rw [Nat.add_comm, Nat.add_mul_div_right _ _ positive, Nat.div_eq_of_lt within, Nat.zero_add]
    · cases present
  · rintro ⟨other, present, same⟩
    exact ⟨other % size, by rw [← same, getElem?_chunk positive, present]⟩

end Chunks

namespace Settings

variable {α : Type} [Scalar α] [Tally α] [Hundredths α] (settings : Settings α)
  (history : History) (store : Store α)

/-- The check of a version panics when it starts with nothing cached. -/
def Panics (version : VersionId) : Prop :=
  (settings.checkVersion history store version).alone = .error .panic

/-- One of the versions that share a chunk of this size with an index panics. -/
def ChunkPanics (size : Nat) (versions : List VersionId) (index : Nat) : Prop :=
  ∃ other version, versions[other]? = some version ∧ other / size = index / size ∧
    settings.Panics history store version

variable {store} in
/-- A worker goes by what its version gives on its own, because the cache that the
earlier checks left is faithful, and it hands on such a cache. -/
theorem checkInTurn_cons {cache : Cache α} (faithful : cache.Faithful store) (version : VersionId)
    (rest : List VersionId) :
    ∃ later : Cache α, later.Faithful store ∧
      settings.checkInTurn history store cache (version :: rest) =
        match (settings.checkVersion history store version).alone with
        | .ok check => (settings.checkInTurn history store later rest).map (.ok check :: ·)
        | .error (.failure error) =>
          (settings.checkInTurn history store later rest).map (.error error :: ·)
        | .error .panic => none := by
  obtain ⟨same, later⟩ := settings.checkVersion_settled history store version cache faithful
  refine ⟨_, later, ?_⟩
  rw [← same, checkInTurn]
  change (match (settings.checkVersion history store version).through cache with
    | (.ok check, cache) => _
    | (.error (.failure error), cache) => _
    | (.error .panic, _) => _) = _
  generalize (settings.checkVersion history store version).through cache = outcome
  obtain ⟨result, left⟩ := outcome
  cases result with
  | ok check => rfl
  | error fault => cases fault <;> rfl

variable {settings history store}

theorem checkInTurn_of_calm {cache : Cache α} (faithful : cache.Faithful store)
    {versions : List VersionId}
    (calm : ∀ version ∈ versions, ¬ settings.Panics history store version) :
    ∃ results, settings.checkInTurn history store cache versions = some results ∧
      results.map (·.mapError .failure) =
        versions.map fun version => (settings.checkVersion history store version).alone := by
  induction versions generalizing cache with
  | nil => exact ⟨[], rfl, rfl⟩
  | cons version rest ih =>
    obtain ⟨later, laterFaithful, turn⟩ :=
      checkInTurn_cons settings history faithful version rest
    obtain ⟨results, run, equal⟩ := ih laterFaithful fun other member =>
      calm other (List.mem_cons_of_mem version member)
    rw [turn, run]
    cases answered : (settings.checkVersion history store version).alone with
    | ok check =>
      exact ⟨.ok check :: results, rfl, by rw [List.map_cons, List.map_cons, equal, answered]; rfl⟩
    | error fault =>
      cases fault with
      | failure error =>
        exact ⟨.error error :: results, rfl, by
          rw [List.map_cons, List.map_cons, equal, answered]; rfl⟩
      | panic => exact absurd answered (calm version (List.mem_cons_self ..))

theorem checkInTurn_of_panic {cache : Cache α} (faithful : cache.Faithful store)
    {versions : List VersionId}
    (panic : ∃ version ∈ versions, settings.Panics history store version) :
    settings.checkInTurn history store cache versions = none := by
  induction versions generalizing cache with
  | nil =>
    obtain ⟨version, member, _⟩ := panic
    exact absurd member List.not_mem_nil
  | cons version rest ih =>
    obtain ⟨later, laterFaithful, turn⟩ :=
      checkInTurn_cons settings history faithful version rest
    rw [turn]
    obtain ⟨culprit, member, panics⟩ := panic
    rcases List.mem_cons.mp member with here | there
    · rw [← here, panics]
    · rw [ih laterFaithful ⟨culprit, there, panics⟩]
      cases (settings.checkVersion history store version).alone with
      | ok check => rfl
      | error fault => cases fault <;> rfl

theorem checkChunk_of_calm {versions : List VersionId}
    (calm : ∀ version ∈ versions, ¬ settings.Panics history store version) :
    (settings.checkChunk history store versions).map (·.mapError .failure) =
      versions.map fun version => (settings.checkVersion history store version).alone := by
  obtain ⟨results, run, equal⟩ := checkInTurn_of_calm (Cache.empty_faithful store) calm
  rw [checkChunk, run]
  exact equal

theorem checkChunk_of_panic {versions : List VersionId}
    (panic : ∃ version ∈ versions, settings.Panics history store version) :
    settings.checkChunk history store versions =
      versions.map fun version => .error (.workerPanicked version) := by
  rw [checkChunk, checkInTurn_of_panic (Cache.empty_faithful store) panic]

theorem length_checkChunk (versions : List VersionId) :
    (settings.checkChunk history store versions).length = versions.length := by
  by_cases panic : ∃ version ∈ versions, settings.Panics history store version
  · rw [checkChunk_of_panic panic, List.length_map]
  · have calm : ∀ version ∈ versions, ¬ settings.Panics history store version :=
      fun version member panics => panic ⟨version, member, panics⟩
    have lengths := congrArg List.length (checkChunk_of_calm calm)
    rwa [List.length_map, List.length_map] at lengths

theorem mem_chunkPanics_iff {size : Nat} (positive : 0 < size) {versions : List VersionId}
    {index : Nat} :
    (∃ version ∈ (versions.drop (index / size * size)).take size,
      settings.Panics history store version) ↔
        settings.ChunkPanics history store size versions index := by
  constructor
  · rintro ⟨version, member, panics⟩
    obtain ⟨other, present, same⟩ := (mem_chunk_iff positive).mp member
    exact ⟨other, version, present, same, panics⟩
  · rintro ⟨other, version, present, same, panics⟩
    exact ⟨version, (mem_chunk_iff positive).mpr ⟨other, present, same⟩, panics⟩

theorem chunkSize_eq_ceilDiv (workers count : Nat) :
    chunkSize workers count = count ⌈/⌉ max 1 (min workers count) := by
  rw [chunkSize, Nat.ceilDiv_eq_add_pred_div]

theorem length_checkVersions (versions : List VersionId) (workers : Nat) :
    (settings.checkVersions history store versions workers).length = versions.length := by
  unfold checkVersions
  split
  · exact length_flatMap_chunks _ length_checkChunk versions
  · rename_i none
    exact (Nat.eq_zero_of_not_pos none).symm

theorem getElem?_checkVersions {versions : List VersionId} {workers index : Nat}
    (inside : index < versions.length) :
    let size := chunkSize workers versions.length
    (settings.checkVersions history store versions workers)[index]? =
      (settings.checkChunk history store
        ((versions.drop (index / size * size)).take size))[index % size]? := by
  intro size
  have some : 0 < versions.length := by omega
  rw [checkVersions, dif_pos some]
  exact getElem?_flatMap_chunks _ length_checkChunk inside

theorem checkVersions_of_chunkPanics {versions : List VersionId} {workers index : Nat}
    {version : VersionId} (present : versions[index]? = some version)
    (panic : settings.ChunkPanics history store (chunkSize workers versions.length) versions index) :
    (settings.checkVersions history store versions workers)[index]? =
      some (.error (.workerPanicked version)) := by
  have inside := (List.getElem?_eq_some_iff.mp present).1
  have positive : 0 < chunkSize workers versions.length := chunkSize_pos (by omega)
  rw [getElem?_checkVersions inside,
    checkChunk_of_panic ((mem_chunkPanics_iff positive).mpr panic), List.getElem?_map,
    getElem?_chunk positive, present]
  rfl

theorem checkVersions_of_calm {versions : List VersionId} {workers index : Nat}
    {version : VersionId} (present : versions[index]? = some version)
    (calm : ¬ settings.ChunkPanics history store (chunkSize workers versions.length) versions
      index) :
    (settings.checkVersions history store versions workers)[index]?.map (·.mapError .failure) =
      some (settings.checkVersion history store version).alone := by
  have inside := (List.getElem?_eq_some_iff.mp present).1
  have positive : 0 < chunkSize workers versions.length := chunkSize_pos (by omega)
  have each := checkChunk_of_calm fun culprit member panics =>
    calm ((mem_chunkPanics_iff positive).mp ⟨culprit, member, panics⟩)
  rw [getElem?_checkVersions inside, ← List.getElem?_map, each, List.getElem?_map,
    getElem?_chunk positive, present]
  rfl

/-- A result that is no panic is told from every other by what it is without a cache. -/
theorem mapError_failure_injective {β : Type} :
    Function.Injective (Except.mapError Fault.failure :
      Except CheckError β → Except (Fault CheckError) β) := by
  intro left right same
  cases left <;> cases right <;> simp_all [Except.mapError]

/-- The result at an index depends on the version that stands there and on whether its
chunk panics, and on nothing else. -/
theorem checkVersions_congr {versions others : List VersionId} {workers fellows index : Nat}
    (same : versions[index]? = others[index]?)
    (panics : settings.ChunkPanics history store (chunkSize workers versions.length) versions index ↔
      settings.ChunkPanics history store (chunkSize fellows others.length) others index) :
    (settings.checkVersions history store versions workers)[index]? =
      (settings.checkVersions history store others fellows)[index]? := by
  cases present : versions[index]? with
  | none =>
    have outside := List.getElem?_eq_none_iff.mp present
    have outsideToo := List.getElem?_eq_none_iff.mp (same.symm.trans present)
    rw [List.getElem?_eq_none (by rwa [length_checkVersions]),
      List.getElem?_eq_none (by rwa [length_checkVersions])]
  | some version =>
    have presentToo := same.symm.trans present
    by_cases panic : settings.ChunkPanics history store (chunkSize workers versions.length) versions
        index
    · rw [checkVersions_of_chunkPanics present panic,
        checkVersions_of_chunkPanics presentToo (panics.mp panic)]
    · have calm := checkVersions_of_calm present panic
      have calmToo := checkVersions_of_calm presentToo fun other => panic (panics.mpr other)
      exact Option.map_injective mapError_failure_injective (calm.trans calmToo.symm)

theorem not_chunkPanics_of_calm {versions : List VersionId}
    (calm : ∀ version ∈ versions, ¬ settings.Panics history store version) (size index : Nat) :
    ¬ settings.ChunkPanics history store size versions index := by
  rintro ⟨other, version, present, _, panics⟩
  exact calm version (List.mem_of_getElem? present) panics

theorem ChunkPanics.of_agree {size place index : Nat} {versions others : List VersionId}
    (panic : settings.ChunkPanics history store size versions index)
    (agree : ∀ other, other ≠ place → versions[other]? = others[other]?)
    (calm : ∀ version, versions[place]? = some version → ¬ settings.Panics history store version) :
    settings.ChunkPanics history store size others index := by
  obtain ⟨other, version, present, same, panics⟩ := panic
  have elsewhere : other ≠ place := by
    intro here
    rw [here] at present
    exact calm version present panics
  exact ⟨other, version, (agree other elsewhere).symm.trans present, same, panics⟩

/-- Checking versions in a batch. There is a result for every version in its place. When
a version panics on its own, every version of its chunk gets the panic for a result;
in any other chunk each version gets what it gets on its own. Hence the number of
workers does not matter as long as nothing panics, and no version matters for the result
of another unless it panics. -/
theorem checkVersions_eq_alone (settings : Settings α) (history : History) (store : Store α)
    (versions : List VersionId) :
    (∀ workers,
      let results := settings.checkVersions history store versions workers
      let size := versions.length ⌈/⌉ max 1 (min workers versions.length)
      results.length = versions.length ∧
      ∀ index version, versions[index]? = some version →
        (settings.ChunkPanics history store size versions index →
          results[index]? = some (.error (.workerPanicked version))) ∧
        (¬ settings.ChunkPanics history store size versions index →
          ∃ result, results[index]? = some result ∧
            result.mapError .failure = (settings.checkVersion history store version).alone)) ∧
    ((∀ version ∈ versions, ¬ settings.Panics history store version) →
      ∀ workers others, settings.checkVersions history store versions workers =
        settings.checkVersions history store versions others) ∧
    ∀ workers place version, ¬ settings.Panics history store version →
      (∀ before, versions[place]? = some before → ¬ settings.Panics history store before) →
      ∀ index, index ≠ place →
        (settings.checkVersions history store (versions.set place version) workers)[index]? =
          (settings.checkVersions history store versions workers)[index]? := by
  refine ⟨fun workers => ?_, fun calm workers others => ?_, ?_⟩
  · intro results size
    have size_eq : size = chunkSize workers versions.length := (chunkSize_eq_ceilDiv ..).symm
    refine ⟨length_checkVersions versions workers, fun index version present => ⟨?_, ?_⟩⟩
    · intro panic
      rw [size_eq] at panic
      exact checkVersions_of_chunkPanics present panic
    · intro calm
      rw [size_eq] at calm
      exact Option.map_eq_some_iff.mp (checkVersions_of_calm present calm)
  · refine List.ext_getElem? fun index => checkVersions_congr rfl ?_
    exact iff_of_false (not_chunkPanics_of_calm calm _ _) (not_chunkPanics_of_calm calm _ _)
  · intro workers place version calm calmBefore index elsewhere
    have agree : ∀ other, other ≠ place → (versions.set place version)[other]? = versions[other]? :=
      fun other different => List.getElem?_set_ne (Ne.symm different)
    have calmAfter : ∀ after, (versions.set place version)[place]? = some after →
        ¬ settings.Panics history store after := by
      intro after present
      obtain ⟨inside, rfl⟩ := List.getElem?_eq_some_iff.mp present
      rwa [List.getElem_set_self]
    refine checkVersions_congr (agree index elsewhere) ?_
    rw [List.length_set]
    exact ⟨fun panic => panic.of_agree agree calmAfter,
      fun panic => panic.of_agree (fun other different => (agree other different).symm) calmBefore⟩

end Settings

end ProfileDrift
