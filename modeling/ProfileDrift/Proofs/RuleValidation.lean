import ProfileDrift.Decimal.Notation
import ProfileDrift.Proofs.MethodChoice
import ProfileDrift.Scalar.Double
import ProfileDrift.Strategy.Settings

namespace ProfileDrift

/-- Trying computations in turn fails as gathering what they yield does. -/
theorem forM_map_eq {ε β γ : Type} (run : β → Except ε γ) (items : List β) :
    (items.forM fun item => (run item).map fun _ => ()) =
      (items.mapM run).map fun _ => () := by
  induction items with
  | nil => rfl
  | cons item rest ih =>
    rw [List.mapM_cons]
    change (((run item).map fun _ => ()) >>= fun _ => rest.forM _) = _
    rw [ih]
    cases run item with
    | error failure => rfl
    | ok result =>
      cases rest.mapM run <;> rfl

namespace Rule

variable {α : Type}

/-- A profile with what the conditions of a rule ask for. -/
def suited (rule : Rule α) : Profile α :=
  .blank
    { collector := rule.collector.getD ""
      command := rule.command.getD ""
      arguments := ""
      workload := rule.workload.getD ""
      postprocessors := rule.postprocessor.toList }
    (rule.resourceType.getD "")

/-- Conditions never exclude each other: each is about a part of a profile of its own. -/
theorem matches_suited (rule : Rule α) : rule.Matches rule.suited := by
  have given {condition : Option String} {wanted : String} (stated : wanted ∈ condition) :
      wanted = condition.getD "" := by
    rw [Option.mem_def.mp stated]
    rfl
  exact ⟨fun _ => given, fun _ => given, fun _ => given, fun _ => given,
    fun _ stated => Option.mem_toList.mpr stated⟩

theorem mem_of_mem_select {rules : List (Rule α)} {mode : ApplyMode} {profile : Profile α}
    {rule : Rule α} (selected : rule ∈ select rules mode profile) : rule ∈ rules := by
  cases mode with
  | all => exact List.mem_of_mem_filter selected
  | first => exact List.mem_of_mem_filter (List.mem_of_mem_take selected)

/-- A rule that a profile matches keeps its place among those that do. -/
theorem select_all_split {earlier later : List (Rule α)} {rule : Rule α} {profile : Profile α}
    (matched : rule.Matches profile) :
    select (earlier ++ rule :: later) .all profile =
      select earlier .all profile ++ rule :: select later .all profile := by
  have kept : rule.isMatch profile = true := (rule.isMatch_iff profile).mpr matched
  simp only [select, List.filter_append, List.filter_cons, kept, if_true]

variable [Scalar α]

theorem exists_methods_eq_ok {rules : List (Rule α)}
    (buildable : ∀ rule ∈ rules, ∃ method, rule.build = .ok method) :
    ∃ methods, Rule.methods rules = .ok methods := by
  cases outcome : Rule.methods rules with
  | ok methods => exact ⟨methods, rfl⟩
  | error error =>
    obtain ⟨rule, member, failure, fails⟩ := exists_methods_eq_error_iff.mp ⟨error, outcome⟩
    obtain ⟨method, yields⟩ := buildable rule member
    rw [yields] at fails
    cases fails

end Rule

namespace Settings

variable {α : Type} [Scalar α]

/-- Settings are valid as far as the methods of all their rules can be built, whatever the
rules are meant for. -/
theorem validate_eq (settings : Settings α) :
    settings.validate = (Rule.methods settings.rules).map fun _ => () := by
  rw [validate, forM_map_eq, Rule.methods_eq]
  cases settings.rules.mapM Rule.build <;> rfl

/-- There is a profile for which the rule that makes settings invalid applies. Under all rules
it is the first that fails there, since the rules before it can be built. -/
theorem exists_methods_eq_error {settings : Settings α} {error : SettingsError}
    (invalid : settings.validate = .error error) :
    ∃ profile : Profile α,
      ({ settings with mode := .all } : Settings α).methods profile = .error error := by
  have failed : Rule.methods settings.rules = .error error := by
    rw [validate_eq] at invalid
    cases outcome : Rule.methods settings.rules with
    | ok methods => rw [outcome] at invalid; cases invalid
    | error other => rw [outcome] at invalid; exact congrArg _ (Except.error.inj invalid)
  obtain ⟨earlier, rule, later, split, buildable, fails⟩ := Rule.methods_eq_error_iff.mp failed
  refine ⟨rule.suited, Rule.methods_eq_error_iff.mpr
    ⟨Rule.select earlier .all rule.suited, rule, Rule.select later .all rule.suited, ?_,
      fun other member => buildable other (Rule.mem_of_mem_select member), fails⟩⟩
  rw [split]
  exact Rule.select_all_split rule.matches_suited

/-- Valid settings give methods for every profile, and no others do. -/
theorem validate_iff_methods (settings : Settings α) :
    (settings.validate = .ok () ↔
      ∀ (profile : Profile α) (mode : ApplyMode), ∃ methods,
        ({ settings with mode } : Settings α).methods profile = .ok methods) ∧
    ∀ error, settings.validate = .error error →
      ∃ profile : Profile α,
        ({ settings with mode := .all } : Settings α).methods profile = .error error := by
  refine ⟨⟨fun valid profile mode => ?_, fun resolved => ?_⟩, fun _ => exists_methods_eq_error⟩
  · rw [validate_eq] at valid
    obtain ⟨methods, made, _⟩ := map_eq_ok valid
    obtain ⟨buildable, _⟩ := Rule.methods_eq_ok_iff.mp made
    exact Rule.exists_methods_eq_ok fun rule member =>
      buildable rule (Rule.mem_of_mem_select member)
  · cases outcome : settings.validate with
    | ok => rfl
    | error error =>
      obtain ⟨profile, failed⟩ := exists_methods_eq_error outcome
      obtain ⟨methods, made⟩ := resolved profile .all
      rw [failed] at made
      cases made

/-- A rule with a threshold beyond one, for profiles that carry fitted models, behind a rule
that asks for the same method and applies to every profile. -/
def shadowing : Settings Float :=
  ⟨.first, [.always "bmoe",
    { (Rule.always "best_model_order_equality" : Rule Float) with
      postprocessor := some "regression_analysis"
      params := .ofList [("confidence_threshold", 1.5)] }]⟩

/-- Such settings are invalid although their own mode never comes to the second rule. -/
theorem validate_iff_methods_shadowing :
    let error := SettingsError.invalidParameter .modelOrder "confidence_threshold"
      "must be within [0, 1]"
    shadowing.validate = .error error ∧
      (∃ profile, ({ shadowing with mode := .all } : Settings Float).methods profile =
        .error error) ∧
      ∀ profile, ∃ methods, shadowing.methods profile = .ok methods := by
  intro error
  have invalid : shadowing.validate = .error error := rfl
  exact ⟨invalid, (validate_iff_methods shadowing).2 error invalid, fun profile => ⟨_, rfl⟩⟩

end Settings

end ProfileDrift
