import Mathlib.Data.List.Nodup
import Mathlib.Data.Option.Basic
import ProfileDrift.Check.Pair
import ProfileDrift.Proofs.Outcome

namespace ProfileDrift

section Firsts

variable {β γ κ : Type} [DecidableEq κ]

/-- The items without those whose key an earlier item has. -/
def firstOfEach (key : β → κ) : List β → List β
  | [] => []
  | item :: rest => item :: (firstOfEach key rest).filter fun later => key later ≠ key item

theorem nodup_firstOfEach (key : β → κ) (items : List β) :
    ((firstOfEach key items).map key).Nodup := by
  induction items with
  | nil => exact .nil
  | cons item rest ih =>
    rw [firstOfEach, List.map_cons, List.nodup_cons]
    refine ⟨fun member => ?_, ih.sublist (List.filter_sublist.map key)⟩
    obtain ⟨later, kept, same⟩ := List.mem_map.mp member
    exact of_decide_eq_true (List.mem_filter.mp kept).2 same

theorem mem_map_firstOfEach {key : β → κ} {items : List β} {name : κ} :
    name ∈ (firstOfEach key items).map key ↔ name ∈ items.map key := by
  induction items with
  | nil => exact Iff.rfl
  | cons item rest ih =>
    rw [firstOfEach, List.map_cons, List.map_cons, List.mem_cons, List.mem_cons, ← ih]
    refine or_congr_right' fun other => ?_
    constructor
    · exact fun member => (List.filter_sublist.map key).subset member
    · intro member
      obtain ⟨later, kept, rfl⟩ := List.mem_map.mp member
      exact List.mem_map.mpr ⟨later, List.mem_filter.mpr ⟨kept, decide_eq_true other⟩, rfl⟩

/-- It makes no difference whether items are sorted out or what is made of them, if it shows
the key of the item that it is made of. -/
theorem forall₂_firstOfEach {related : β → γ → Prop} {key : β → κ} {shown : γ → κ}
    (shows : ∀ item made, related item made → key item = shown made) {items : List β}
    {results : List γ} (each : List.Forall₂ related items results) :
    List.Forall₂ related (firstOfEach key items) (firstOfEach shown results) := by
  induction each with
  | nil => exact .nil
  | @cons item made items results here _ ih =>
    refine .cons here (List.rel_filter (fun later result yields => ?_) ih)
    change decide (key later ≠ key item) = true ↔ decide (shown result ≠ shown made) = true
    rw [shows later result yields, shows item made here]

end Firsts

namespace Method

variable {α : Type} [Scalar α]

theorem name_of_buildNamed {name : MethodName} {params : Keyed α} {method : Method α}
    (built : buildNamed name params = .ok method) : method.name = name := by
  cases name with
  | averageAmount =>
    obtain ⟨⟨degradation, optimization⟩, _, built⟩ := bind_eq_ok built
    dsimp only at built
    split at built
    · cases built
    · split at built
      · cases built
      · cases built
        rfl
  | modelOrder =>
    obtain ⟨confidence, _, made⟩ := bind_eq_ok built
    cases made
    rfl
  | fastCheck | linearRegression =>
    obtain ⟨change, _, rfl⟩ := map_eq_ok built
    rfl
  | integral =>
    obtain ⟨⟨noChange, change⟩, _, built⟩ := bind_eq_ok built
    dsimp only at built
    split at built
    · cases built
    · split at built
      · cases built
      · cases built
        rfl

/-- A method is only built under a name that calls it. -/
theorem ofText?_of_build {name : String} {params : Keyed α} {method : Method α}
    (built : build name params = .ok method) : MethodName.ofText? name = some method.name := by
  unfold build at built
  split at built
  · rename_i known named
    rw [named, name_of_buildNamed built]
  · cases built

end Method

namespace Rule

variable {α : Type}

/-- Every condition that the rule states holds of the profile. -/
structure Matches (rule : Rule α) (profile : Profile α) : Prop where
  resourceType : ∀ wanted ∈ rule.resourceType, wanted = profile.resourceType
  command : ∀ wanted ∈ rule.command, wanted = profile.configuration.command
  collector : ∀ wanted ∈ rule.collector, wanted = profile.configuration.collector
  workload : ∀ wanted ∈ rule.workload, wanted = profile.configuration.workload
  postprocessor : ∀ wanted ∈ rule.postprocessor,
    wanted ∈ profile.configuration.postprocessors

theorem isMatch_iff (rule : Rule α) (profile : Profile α) :
    rule.isMatch profile = true ↔ rule.Matches profile := by
  simp only [isMatch, Bool.and_eq_true, Option.all_eq_true, beq_iff_eq,
    Profile.hasPostprocessor, List.contains_iff_mem]
  constructor
  · rintro ⟨⟨⟨⟨resourceType, command⟩, collector⟩, workload⟩, postprocessor⟩
    exact ⟨resourceType, command, collector, workload, postprocessor⟩
  · rintro ⟨resourceType, command, collector, workload, postprocessor⟩
    exact ⟨⟨⟨⟨resourceType, command⟩, collector⟩, workload⟩, postprocessor⟩

instance decidableMatches (rule : Rule α) (profile : Profile α) :
    Decidable (rule.Matches profile) :=
  decidable_of_iff _ (rule.isMatch_iff profile)

/-- The method that the rule asks for, by its full name or by its short one. -/
def methodName? (rule : Rule α) : Option MethodName := MethodName.ofText? rule.method

/-- Methods are added to those that are there already in the order in which they first come
up. -/
theorem foldl_addMethod (built start : List (Method α)) :
    built.foldl addMethod start =
      start ++ (firstOfEach (some ·.name) built).filter fun method =>
        method.name ∉ start.map (·.name) := by
  induction built generalizing start with
  | nil => exact (List.append_nil start).symm
  | cons method rest ih =>
    rw [List.foldl_cons, ih, firstOfEach]
    by_cases known : method.name ∈ start.map (·.name)
    · have same : addMethod start method = start := by
        obtain ⟨earlier, member, named⟩ := List.mem_map.mp known
        exact if_pos (List.any_eq_true.mpr ⟨earlier, member, decide_eq_true named⟩)
      rw [same, List.filter_cons_of_neg (by simpa using known), List.filter_filter]
      congr 1
      refine List.filter_congr fun later _ => ?_
      rw [Bool.eq_iff_iff, Bool.and_eq_true, decide_eq_true_eq, decide_eq_true_eq]
      exact ⟨fun fresh => ⟨fresh, fun named => fresh (Option.some.inj named ▸ known)⟩, And.left⟩
    · have added : addMethod start method = start ++ [method] := by
        refine if_neg fun found => known ?_
        obtain ⟨earlier, member, named⟩ := List.any_eq_true.mp found
        exact List.mem_map.mpr ⟨earlier, member, of_decide_eq_true named⟩
      rw [added, List.filter_cons_of_pos (by simpa using known), List.filter_filter,
        List.append_assoc, List.singleton_append]
      congr 2
      refine List.filter_congr fun later _ => ?_
      rw [Bool.eq_iff_iff, Bool.and_eq_true, decide_eq_true_eq, decide_eq_true_eq,
        decide_eq_true_eq, List.map_append, List.mem_append, not_or, List.map_singleton,
        List.mem_singleton]
      exact and_congr_right' (not_congr Option.some_inj).symm

variable [Scalar α]

theorem methodName?_of_build {rule : Rule α} {method : Method α} (built : rule.build = .ok method) :
    rule.methodName? = some method.name :=
  Method.ofText?_of_build built

theorem methods_eq (rules : List (Rule α)) :
    Rule.methods rules = (rules.mapM build).map (firstOfEach (some ·.name)) := by
  rw [Rule.methods, foldlM_map_eq]
  congr 1
  funext built
  rw [foldl_addMethod, List.nil_append]
  exact List.filter_eq_self.mpr fun _ _ => rfl

/-- The methods of rules are built by the first rule for each of them, provided that all
rules can be built. -/
theorem methods_eq_ok_iff {rules : List (Rule α)} {methods : List (Method α)} :
    Rule.methods rules = .ok methods ↔
      (∀ rule ∈ rules, ∃ method, rule.build = .ok method) ∧
        List.Forall₂ (fun rule method => rule.build = .ok method)
          (firstOfEach methodName? rules) methods := by
  have firsts : ∀ built : List (Method α), rules.mapM build = .ok built →
      (firstOfEach methodName? rules).mapM build = .ok (firstOfEach (some ·.name) built) :=
    fun built succeeded => mapM_eq_ok_iff.mpr <|
      forall₂_firstOfEach (fun _ _ => methodName?_of_build) (mapM_eq_ok_iff.mp succeeded)
  rw [methods_eq, ← mapM_eq_ok_iff]
  constructor
  · intro made
    obtain ⟨built, succeeded, rfl⟩ := map_eq_ok made
    refine ⟨fun rule member => ?_, firsts built succeeded⟩
    obtain ⟨method, _, yields⟩ := exists_of_mapM_eq_ok succeeded rule member
    exact ⟨method, yields⟩
  · rintro ⟨buildable, made⟩
    cases outcome : rules.mapM build with
    | error failure =>
      obtain ⟨earlier, rule, later, rfl, _, fails⟩ := mapM_eq_error_iff.mp outcome
      obtain ⟨method, yields⟩ := buildable rule (List.mem_append_right _ (List.mem_cons_self ..))
      rw [fails] at yields
      cases yields
    | ok built => exact (firsts built outcome).symm.trans made

/-- The first rule that cannot be built says why there are no methods, whether or not the
method that it asks for is there already. -/
theorem methods_eq_error_iff {rules : List (Rule α)} {error : SettingsError} :
    Rule.methods rules = .error error ↔
      ∃ earlier rule later, rules = earlier ++ rule :: later ∧
        (∀ other ∈ earlier, ∃ method, other.build = .ok method) ∧ rule.build = .error error := by
  rw [methods_eq, ← mapM_eq_error_iff]
  cases rules.mapM build with
  | error failure => exact ⟨id, id⟩
  | ok built => exact ⟨nofun, nofun⟩

theorem exists_methods_eq_error_iff {rules : List (Rule α)} :
    (∃ error, Rule.methods rules = .error error) ↔
      ∃ rule ∈ rules, ∃ error, rule.build = .error error := by
  constructor
  · rintro ⟨error, failed⟩
    obtain ⟨earlier, rule, later, rfl, _, fails⟩ := methods_eq_error_iff.mp failed
    exact ⟨rule, List.mem_append_right earlier (List.mem_cons_self ..), error, fails⟩
  · rintro ⟨rule, member, error, fails⟩
    cases outcome : Rule.methods rules with
    | error other => exact ⟨other, rfl⟩
    | ok methods =>
      obtain ⟨method, yields⟩ := (methods_eq_ok_iff.mp outcome).1 rule member
      rw [fails] at yields
      cases yields

theorem methodName?_of_built {rules : List (Rule α)} {methods : List (Method α)}
    (built : List.Forall₂ (fun rule method => rule.build = .ok method) rules methods) :
    rules.map methodName? = (methods.map (·.name)).map some := by
  induction built with
  | nil => rfl
  | cons here _ ih => rw [List.map_cons, List.map_cons, List.map_cons, methodName?_of_build here, ih]

theorem nodup_of_methods {rules : List (Rule α)} {methods : List (Method α)}
    (made : Rule.methods rules = .ok methods) : (methods.map (·.name)).Nodup := by
  have distinct := nodup_firstOfEach methodName? rules
  rw [methodName?_of_built (methods_eq_ok_iff.mp made).2] at distinct
  exact distinct.of_map some

theorem mem_names_of_methods {rules : List (Rule α)} {methods : List (Method α)}
    (made : Rule.methods rules = .ok methods) {name : MethodName} :
    name ∈ methods.map (·.name) ↔ ∃ rule ∈ rules, rule.methodName? = some name := by
  have asked : some name ∈ (firstOfEach methodName? rules).map methodName? ↔
      some name ∈ rules.map methodName? := mem_map_firstOfEach
  rw [methodName?_of_built (methods_eq_ok_iff.mp made).2,
    List.mem_map_of_injective (Option.some_injective _)] at asked
  exact asked.trans List.mem_map

end Rule

namespace Settings

variable {α : Type}

/-- The rules that apply to a profile: in their order all that match it, or only the first
that does. -/
def applicable (settings : Settings α) (profile : Profile α) : List (Rule α) :=
  match settings.mode with
  | .all => settings.rules.filter fun rule => rule.Matches profile
  | .first => (settings.rules.find? fun rule => rule.Matches profile).toList

theorem select_eq_applicable (settings : Settings α) (profile : Profile α) :
    Rule.select settings.rules settings.mode profile = settings.applicable profile := by
  have same : (fun rule : Rule α => rule.isMatch profile) =
      fun rule => decide (rule.Matches profile) := by
    funext rule
    rw [Bool.eq_iff_iff, decide_eq_true_iff]
    exact rule.isMatch_iff profile
  unfold Rule.select applicable
  rw [same]
  cases settings.mode with
  | all => rfl
  | first =>
    dsimp only
    rw [List.take_one, List.head?_filter]

end Settings

end ProfileDrift
