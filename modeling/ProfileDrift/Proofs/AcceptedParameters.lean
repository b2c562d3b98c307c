import ProfileDrift.Proofs.DoublePlace
import ProfileDrift.Proofs.KeyedGroups
import ProfileDrift.Proofs.MethodChoice

namespace ProfileDrift

namespace Keyed

variable {β : Type}

/-- The value under a name, or the usual one where none is given. -/
def valueOr (map : Keyed β) (name : String) (usual : β) : β := (map.get? name).getD usual

/-- What is known under a name after one more entry. -/
def heed (name : String) (value : β) (entry : String × β) : β :=
  if entry.1 = name then entry.2 else value

theorem foldl_heed (entries : List (String × β)) (name : String) (usual : β) :
    entries.foldl (heed name) usual = (entries.reverse.lookup name).getD usual := by
  induction entries generalizing usual with
  | nil => rfl
  | cons entry entries ih =>
    obtain ⟨key, value⟩ := entry
    rw [List.foldl_cons, ih, List.reverse_cons, List.lookup_append, lookup_cons_eq_if, heed]
    dsimp only
    cases entries.reverse.lookup name with
    | some later => rfl
    | none =>
      by_cases here : name = key
      · rw [if_pos here, if_pos here.symm]
        rfl
      · rw [if_neg here, if_neg (Ne.symm here)]
        rfl

/-- Going through all entries finds the value under a name. -/
theorem foldl_heed_entries (map : Keyed β) (name : String) (usual : β) :
    map.entries.foldl (heed name) usual = map.valueOr name usual := by
  rw [foldl_heed, lookup_reverse map.ascending]
  rfl

theorem foldl_heed_pair (entries : List (String × β)) (name other : String) (usual usual' : β) :
    entries.foldl (fun values entry => (heed name values.1 entry, heed other values.2 entry))
      (usual, usual') = (entries.foldl (heed name) usual, entries.foldl (heed other) usual') := by
  induction entries generalizing usual usual' with
  | nil => rfl
  | cons entry entries ih => exact ih _ _

/-- One parameter is taken if no others are there, and it has the value given for it. -/
theorem foldlM_one_eq_ok_iff {ε : Type} (map : Keyed β) (name : String) (refuse : String → ε)
    (usual : β) {value : β} :
    map.entries.foldlM (fun _ (key, given) =>
        if key = name then Except.ok given else .error (refuse key)) usual = .ok value ↔
      (∀ key ∈ map.names, key ∈ [name]) ∧ map.valueOr name usual = value := by
  rw [foldlM_eq_ok_iff (fun entry => entry.1 ∈ [name]) (heed name), foldl_heed_entries, names,
    List.forall_mem_map]
  · rintro value ⟨key, given⟩ known
    have named := List.mem_singleton.mp known
    dsimp only
    rw [heed, if_pos named, if_pos named]
  · rintro value ⟨key, given⟩ unknown
    exact ⟨_, if_neg fun named => unknown (List.mem_singleton.mpr named)⟩

/-- Two parameters are taken if no others are there, and each has the value given for it. -/
theorem foldlM_two_eq_ok_iff {ε : Type} (map : Keyed β) {name other : String} (apart : name ≠ other)
    (refuse : String → ε) (usual usual' : β) {values : β × β} :
    map.entries.foldlM (fun (value, value') (key, given) =>
        if key = name then Except.ok (given, value')
        else if key = other then .ok (value, given)
        else .error (refuse key)) (usual, usual') = .ok values ↔
      (∀ key ∈ map.names, key ∈ [name, other]) ∧
        (map.valueOr name usual, map.valueOr other usual') = values := by
  rw [foldlM_eq_ok_iff (fun entry => entry.1 ∈ [name, other])
    (fun values entry => (heed name values.1 entry, heed other values.2 entry)), foldl_heed_pair,
    foldl_heed_entries, foldl_heed_entries, names, List.forall_mem_map]
  · rintro ⟨value, value'⟩ ⟨key, given⟩ known
    simp only [List.mem_cons, List.not_mem_nil, or_false] at known
    unfold heed
    dsimp only
    rcases known with rfl | rfl
    · rw [if_pos rfl, if_pos rfl, if_neg apart]
    · rw [if_neg apart.symm, if_neg apart.symm, if_pos rfl, if_pos rfl]
  · rintro ⟨value, value'⟩ ⟨key, given⟩ unknown
    simp only [List.mem_cons, List.not_mem_nil, or_false, not_or] at unknown
    dsimp only
    rw [if_neg unknown.1, if_neg unknown.2]
    exact ⟨_, rfl⟩

/-- A parameter that is checked when it is taken is checked for every value that is given, and
so for the one that counts, since the usual one is valid. -/
theorem foldlM_valid_eq_ok_iff {ε : Type} (map : Keyed β) (name : String) (valid : β → Prop)
    [DecidablePred valid] (refuse invalid : String → ε) {usual : β} (usually : valid usual)
    {value : β} :
    map.entries.foldlM (fun _ (key, given) =>
        if key = name then if valid given then Except.ok given else .error (invalid key)
        else .error (refuse key)) usual = .ok value ↔
      (∀ key ∈ map.names, key ∈ [name]) ∧ map.valueOr name usual = value ∧ valid value := by
  have checked : (∀ entry ∈ map.entries, entry.1 = name ∧ valid entry.2) ↔
      (∀ key ∈ map.names, key ∈ [name]) ∧ valid (map.valueOr name usual) := by
    refine ⟨fun each => ⟨fun key listed => ?_, ?_⟩, fun ⟨known, counts⟩ entry member => ?_⟩
    · obtain ⟨entry, member, rfl⟩ := List.mem_map.mp listed
      exact List.mem_singleton.mpr (each entry member).1
    · rw [valueOr]
      cases found : map.get? name with
      | none => exact usually
      | some given => exact (each _ (mem_of_get? found)).2
    · have named : entry.1 = name :=
        List.mem_singleton.mp (known entry.1 (List.mem_map_of_mem member))
      have found : map.get? name = some entry.2 := named ▸ get?_of_mem member
      rw [valueOr, found] at counts
      exact ⟨named, counts⟩
  rw [foldlM_eq_ok_iff (fun entry => entry.1 = name ∧ valid entry.2) (heed name),
    foldl_heed_entries, checked, and_assoc]
  · refine and_congr_right' ⟨fun ⟨counts, same⟩ => ⟨same, same ▸ counts⟩,
      fun ⟨same, counts⟩ => ⟨same ▸ counts, same⟩⟩
  · rintro value ⟨key, given⟩ ⟨named, acceptable⟩
    dsimp only
    rw [if_pos named, if_pos acceptable, heed, if_pos named]
  · rintro value ⟨key, given⟩ refused
    dsimp only
    by_cases named : key = name
    · rw [if_pos named, if_neg fun acceptable => refused ⟨named, acceptable⟩]
      exact ⟨_, rfl⟩
    · rw [if_neg named]
      exact ⟨_, rfl⟩

end Keyed

namespace MethodName

theorem ofText?_eq_some_iff {text : String} {name : MethodName} :
    ofText? text = some name ↔ text = name.full ∨ text = name.short := by
  constructor
  · intro found
    have called := List.find?_some found
    simp only [Bool.or_eq_true, beq_iff_eq] at called
    exact called.imp Eq.symm Eq.symm
  · rintro (rfl | rfl) <;> cases name <;> rfl

/-- The parameters that a method takes. -/
def parameters : MethodName → List String
  | averageAmount => ["degradation_threshold", "optimization_threshold"]
  | modelOrder => ["confidence_threshold"]
  | integral => ["no_change_threshold", "change_threshold"]
  | fastCheck | linearRegression => ["change_threshold"]

end MethodName

namespace Method

variable {α : Type} [Scalar α]

/-- The method of a name that goes by the parameters that are given, and by the usual ones for
the others. -/
def ofParams (params : Keyed α) : MethodName → Method α
  | .averageAmount => averageAmount (params.valueOr "degradation_threshold" 2.0)
      (params.valueOr "optimization_threshold" 0.5)
  | .modelOrder => modelOrder (params.valueOr "confidence_threshold" 0.9)
  | .fastCheck => fastCheck (params.valueOr "change_threshold" usualChange)
  | .integral => integral (params.valueOr "no_change_threshold" 0.10)
      (params.valueOr "change_threshold" usualChange)
  | .linearRegression => linearRegression (params.valueOr "change_threshold" usualChange)

end Method

namespace Method

/-- The thresholds of a method leave room for each kind of change that it tells apart. -/
def IsSound : Method Float → Prop
  | averageAmount degradation optimization =>
    (0.0 < optimization ∧ optimization < 1.0) ∧ 1.0 < degradation ∧ degradation < Scalar.infinity
  | modelOrder confidence => 0.0 ≤ confidence ∧ confidence ≤ 1.0
  | integral noChange change => 0.0 ≤ noChange ∧ noChange < change ∧ change < Scalar.infinity
  | fastCheck change | linearRegression change => 0.0 < change ∧ change < Scalar.infinity

variable {params : Keyed Float} {method : Method Float}

theorem buildAverageAmount_eq_ok_iff :
    buildAverageAmount params.entries = .ok method ↔
      (∀ key ∈ params.names, key ∈ MethodName.averageAmount.parameters) ∧
        ofParams params .averageAmount = method ∧ method.IsSound := by
  have finite {degradation : Float} (above : 1.0 < degradation) :
      degradation.isFinite = true ↔ degradation < Scalar.infinity :=
    Double.isFinite_iff_lt_infinity
      (Double.le_of_lt (Double.lt_lt_trans (by decide +kernel) above))
  have apart : "degradation_threshold" ≠ "optimization_threshold" := by decide
  unfold buildAverageAmount
  rw [bind_eq_ok_iff]
  constructor
  · rintro ⟨⟨degradation, optimization⟩, taken, built⟩
    obtain ⟨known, given⟩ := (Keyed.foldlM_two_eq_ok_iff params apart _ _ _).mp taken
    cases given
    obtain ⟨within, built⟩ := unless_throw_eq_ok_iff.mp built
    obtain ⟨⟨above, definite⟩, built⟩ := unless_throw_eq_ok_iff.mp built
    cases built
    exact ⟨known, rfl, within, above, (finite above).mp definite⟩
  · rintro ⟨known, rfl, within, above, below⟩
    refine ⟨_, (Keyed.foldlM_two_eq_ok_iff params apart _ _ _).mpr ⟨known, rfl⟩, ?_⟩
    refine unless_throw_eq_ok_iff.mpr ⟨within, unless_throw_eq_ok_iff.mpr ⟨?_, rfl⟩⟩
    exact ⟨above, (finite above).mpr below⟩

theorem buildIntegral_eq_ok_iff :
    buildIntegral params.entries = .ok method ↔
      (∀ key ∈ params.names, key ∈ MethodName.integral.parameters) ∧
        ofParams params .integral = method ∧ method.IsSound := by
  have apart : "no_change_threshold" ≠ "change_threshold" := by decide
  unfold buildIntegral
  rw [bind_eq_ok_iff]
  constructor
  · rintro ⟨⟨noChange, change⟩, taken, built⟩
    obtain ⟨known, given⟩ := (Keyed.foldlM_two_eq_ok_iff params apart _ _ _).mp taken
    cases given
    obtain ⟨⟨nonnegative, -⟩, built⟩ := unless_throw_eq_ok_iff.mp built
    obtain ⟨⟨above, definite⟩, built⟩ := unless_throw_eq_ok_iff.mp built
    cases built
    have below := (Double.isFinite_iff_lt_infinity
      (Double.le_of_lt (Double.le_lt_trans nonnegative above))).mp definite
    exact ⟨known, rfl, nonnegative, above, below⟩
  · rintro ⟨known, rfl, nonnegative, above, below⟩
    refine ⟨_, (Keyed.foldlM_two_eq_ok_iff params apart _ _ _).mpr ⟨known, rfl⟩, ?_⟩
    have definite := (Double.isFinite_iff_lt_infinity nonnegative).mpr (Double.lt_lt_trans above below)
    have definite' := (Double.isFinite_iff_lt_infinity
      (Double.le_of_lt (Double.le_lt_trans nonnegative above))).mpr below
    exact unless_throw_eq_ok_iff.mpr ⟨⟨nonnegative, definite⟩,
      unless_throw_eq_ok_iff.mpr ⟨⟨above, definite'⟩, rfl⟩⟩

theorem buildModelOrder_eq_ok_iff :
    buildModelOrder params.entries = .ok method ↔
      (∀ key ∈ params.names, key ∈ MethodName.modelOrder.parameters) ∧
        ofParams params .modelOrder = method ∧ method.IsSound := by
  have usually : (0.0 : Float) ≤ 0.9 ∧ (0.9 : Float) ≤ 1.0 := by decide +kernel
  have taken {confidence : Float} := @Keyed.foldlM_valid_eq_ok_iff Float _ params
    "confidence_threshold" (fun value => 0.0 ≤ value ∧ value ≤ 1.0) _
    (SettingsError.unknownParameter .modelOrder)
    (SettingsError.invalidParameter .modelOrder · "must be within [0, 1]") _ usually confidence
  unfold buildModelOrder
  rw [bind_eq_ok_iff]
  constructor
  · rintro ⟨confidence, made, built⟩
    obtain ⟨known, rfl, within⟩ := taken.mp made
    cases built
    exact ⟨known, rfl, within⟩
  · rintro ⟨known, rfl, within⟩
    exact ⟨_, taken.mpr ⟨known, rfl, within⟩, rfl⟩

theorem buildChange_eq_ok_iff {name : MethodName} {change : Float} :
    buildChange name params.entries = .ok change ↔
      (∀ key ∈ params.names, key ∈ ["change_threshold"]) ∧
        params.valueOr "change_threshold" usualChange = change ∧
        0.0 < change ∧ change < Scalar.infinity := by
  unfold buildChange
  rw [bind_eq_ok_iff]
  constructor
  · rintro ⟨given, taken, built⟩
    obtain ⟨known, rfl⟩ := (Keyed.foldlM_one_eq_ok_iff params _ _ _).mp taken
    obtain ⟨⟨above, definite⟩, built⟩ := unless_throw_eq_ok_iff.mp built
    cases built
    exact ⟨known, rfl, above,
      (Double.isFinite_iff_lt_infinity (Double.le_of_lt above)).mp definite⟩
  · rintro ⟨known, rfl, above, below⟩
    refine ⟨_, (Keyed.foldlM_one_eq_ok_iff params _ _ _).mpr ⟨known, rfl⟩, ?_⟩
    have definite := (Double.isFinite_iff_lt_infinity (Double.le_of_lt above)).mpr below
    exact unless_throw_eq_ok_iff.mpr ⟨⟨above, definite⟩, rfl⟩

/-- Parameters are accepted if they are the ones that the method takes and its thresholds are
then sound, the usual ones included. -/
theorem buildNamed_eq_ok_iff {name : MethodName} :
    buildNamed name params = .ok method ↔
      (∀ key ∈ params.names, key ∈ name.parameters) ∧ ofParams params name = method ∧
        method.IsSound := by
  cases name with
  | averageAmount => exact buildAverageAmount_eq_ok_iff
  | modelOrder => exact buildModelOrder_eq_ok_iff
  | integral => exact buildIntegral_eq_ok_iff
  | fastCheck | linearRegression =>
    constructor
    · intro built
      obtain ⟨change, made, rfl⟩ := map_eq_ok built
      obtain ⟨known, rfl, within⟩ := buildChange_eq_ok_iff.mp made
      exact ⟨known, rfl, within⟩
    · rintro ⟨known, rfl, within⟩
      exact congrArg (Except.map _) (buildChange_eq_ok_iff.mpr ⟨known, rfl, within⟩)

/-- A method can be built exactly if its name is a full or a short one of a known method, that
method takes all parameters that are given, and its thresholds are sound: each the given one or,
where none is given, the usual one. It then goes by these thresholds. What is not a number is no
sound threshold. A name that is not known is refused as such, whatever parameters come with it. -/
theorem build_eq_ok_iff (name : String) (params : Keyed Float) :
    (∀ method, build name params = .ok method ↔
      ∃ known : MethodName, (name = known.full ∨ name = known.short) ∧
        (∀ key ∈ params.names, key ∈ known.parameters) ∧
        ofParams params known = method ∧ method.IsSound) ∧
    ((∀ known : MethodName, name ≠ known.full ∧ name ≠ known.short) →
      build name params = .error (.unknownMethod name)) := by
  unfold build
  cases found : MethodName.ofText? name with
  | none =>
    refine ⟨fun method => iff_of_false nofun ?_, fun _ => rfl⟩
    rintro ⟨known, called, -⟩
    rw [← MethodName.ofText?_eq_some_iff, found] at called
    cases called
  | some known =>
    have called := MethodName.ofText?_eq_some_iff.mp found
    refine ⟨fun method => buildNamed_eq_ok_iff.trans ⟨fun accepted => ⟨known, called, accepted⟩, ?_⟩,
      fun unknown => (called.elim (unknown known).1 (unknown known).2).elim⟩
    rintro ⟨other, called', accepted⟩
    rw [← MethodName.ofText?_eq_some_iff, found] at called'
    cases called'
    exact accepted

/-- A lone threshold is held against the usual value of the other one. -/
example : build "integral_comparison" (.ofList [("no_change_threshold", (0.25 : Float))]) =
    .error (.invalidParameter .integral "change_threshold"
      "must be greater than no_change_threshold") :=
  rfl

end Method

end ProfileDrift
