import ProfileDrift.Proofs.DoublePlace
import ProfileDrift.Proofs.FitOutcome
import ProfileDrift.Proofs.ProfileContent
import ProfileDrift.Proofs.SameSides

namespace ProfileDrift.Model

section Scan

variable {α : Type} [Scalar α]

theorem selectBest?_concat (models : List (Model α)) (candidate : Model α) :
    selectBest? (models ++ [candidate]) = better (selectBest? models) candidate := by
  rw [selectBest?, List.foldl_append]
  rfl

/-- Nothing can be said about models exactly if none explains a definite part. -/
theorem selectBest?_eq_none_iff {models : List (Model α)} :
    selectBest? models = none ↔ ∀ model ∈ models, Scalar.isFinite model.rSquare = false := by
  induction models using List.reverseRecOn with
  | nil => exact ⟨fun _ _ member => absurd member List.not_mem_nil, fun _ => rfl⟩
  | append_singleton models candidate ih =>
    rw [selectBest?_concat, List.forall_mem_append, List.forall_mem_singleton, ← ih]
    unfold better
    cases definite : Scalar.isFinite candidate.rSquare with
    | false => exact ⟨fun none => ⟨none, rfl⟩, And.left⟩
    | true =>
      refine ⟨fun none => ?_, fun ⟨_, indefinite⟩ => by cases indefinite⟩
      rw [if_pos rfl] at none
      split at none
      · cases none
      · split at none <;> cases none

end Scan

/-- Where a model stands among those that explain a definite part: by what it explains and,
where that is the same, by the name of its family, the earliest name highest. -/
def standing (model : Model Float) : (ℤ ×ₗ (ℤ ×ₗ ℤ)) ×ₗ Stringᵒᵈ :=
  toLex (Double.place model.rSquare, OrderDual.toDual model.family.name)

theorem beats_iff {candidate current : Model Float}
    (definite : candidate.rSquare.isFinite = true) (definite' : current.rSquare.isFinite = true) :
    beats candidate current = true ↔ current.standing < candidate.standing := by
  have number := Double.not_isNaN_of_isFinite definite
  have number' := Double.not_isNaN_of_isFinite definite'
  rw [beats, Bool.or_eq_true, Bool.and_eq_true, decide_eq_true_iff, decide_eq_true_iff,
    Double.lt_iff_place number' number, Double.beq_iff_place number number', standing, standing,
    Prod.Lex.toLex_lt_toLex, eq_comm (a := Double.place candidate.rSquare)]
  rfl

theorem standing_eq_iff {model other : Model Float} (definite : model.rSquare.isFinite = true)
    (definite' : other.rSquare.isFinite = true) :
    model.standing = other.standing ↔
      (model.rSquare == other.rSquare) = true ∧ model.family = other.family := by
  rw [Double.beq_iff_place (Double.not_isNaN_of_isFinite definite)
    (Double.not_isNaN_of_isFinite definite'), standing, standing, toLex_inj, Prod.mk.injEq,
    OrderDual.toDual_inj, Family.name_injective.eq_iff]

/-- The model explains a definite part, and of the other models that do none stands higher and
none that comes before it as high. -/
structure Leads (best : Model Float) (earlier later : List (Model Float)) : Prop where
  definite : best.rSquare.isFinite = true
  above : ∀ model ∈ earlier, model.rSquare.isFinite = true → model.standing < best.standing
  notBelow : ∀ model ∈ later, model.rSquare.isFinite = true → model.standing ≤ best.standing

namespace Leads

variable {best candidate : Model Float} {earlier later : List (Model Float)}

theorem le (leads : best.Leads earlier later) {model : Model Float}
    (member : model ∈ earlier ++ best :: later) (definite : model.rSquare.isFinite = true) :
    model.standing ≤ best.standing := by
  rcases List.mem_append.mp member with before | after
  · exact (leads.above model before definite).le
  · rcases List.mem_cons.mp after with rfl | after
    · exact le_rfl
    · exact leads.notBelow model after definite

/-- A model stays ahead of one that it is compared with and that does not stand higher. -/
theorem stays (leads : best.Leads earlier later)
    (behind : candidate.rSquare.isFinite = true → candidate.standing ≤ best.standing) :
    best.Leads earlier (later ++ [candidate]) where
  definite := leads.definite
  above := leads.above
  notBelow := List.forall_mem_append.mpr ⟨leads.notBelow, List.forall_mem_singleton.mpr behind⟩

theorem overtaken (leads : best.Leads earlier later)
    (definite : candidate.rSquare.isFinite = true) (ahead : best.standing < candidate.standing) :
    candidate.Leads (earlier ++ best :: later) [] where
  definite := definite
  above _ member definite := (leads.le member definite).trans_lt ahead
  notBelow _ member := absurd member List.not_mem_nil

end Leads

/-- The model that is selected is ahead of all models it was selected from. -/
theorem leads_of_selectBest? {models : List (Model Float)} {best : Model Float}
    (found : selectBest? models = some best) :
    ∃ earlier later, models = earlier ++ best :: later ∧ best.Leads earlier later := by
  induction models using List.reverseRecOn generalizing best with
  | nil => cases found
  | append_singleton models candidate ih =>
    rw [selectBest?_concat] at found
    unfold better at found
    split at found
    · rename_i definite
      split at found
      · -- nothing was selected before, so every model before explains nothing definite
        rename_i none
        cases found
        have indefinite := selectBest?_eq_none_iff.mp none
        refine ⟨models, [], rfl, definite, fun model member finite => ?_, nofun⟩
        exact absurd finite (Bool.eq_false_iff.mp (indefinite model member))
      · rename_i current selected
        obtain ⟨earlier, later, rfl, leads⟩ := ih selected
        split at found
        · rename_i beaten
          cases found
          have ahead := (beats_iff definite leads.definite).mp beaten
          exact ⟨_, [], rfl, leads.overtaken definite ahead⟩
        · rename_i unbeaten
          cases found
          rw [beats_iff definite leads.definite, not_lt] at unbeaten
          exact ⟨earlier, later ++ [candidate], by simp, leads.stays fun _ => unbeaten⟩
    · rename_i indefinite
      obtain ⟨earlier, later, rfl, leads⟩ := ih found
      exact ⟨earlier, later ++ [candidate], by simp,
        leads.stays fun definite => absurd definite indefinite⟩

/-- What the best of some models is. It explains a definite part and none explains more, the
family of none that explains the same comes before by name, and of those of its own family it
is the earliest. -/
structure IsBest (best : Model Float) (models : List (Model Float)) : Prop where
  definite : best.rSquare.isFinite = true
  most : ∀ model ∈ models, model.rSquare.isFinite = true → model.rSquare ≤ best.rSquare
  firstName : ∀ model ∈ models, (model.rSquare == best.rSquare) = true →
    best.family.name ≤ model.family.name
  earliest : ∃ earlier later, models = earlier ++ best :: later ∧
    ∀ model ∈ earlier, (model.rSquare == best.rSquare) = true → model.family ≠ best.family

theorem Leads.isBest {best : Model Float} {earlier later : List (Model Float)}
    (leads : best.Leads earlier later) : best.IsBest (earlier ++ best :: later) where
  definite := leads.definite
  most model member definite := by
    have lower := Prod.Lex.monotone_fst _ _ (leads.le member definite)
    exact (Double.le_iff_place (Double.not_isNaN_of_isFinite definite)
      (Double.not_isNaN_of_isFinite leads.definite)).mpr lower
  firstName model member same := by
    have definite := Double.isFinite_of_beq same leads.definite
    have level := (Double.beq_iff_place (Double.not_isNaN_of_isFinite definite)
      (Double.not_isNaN_of_isFinite leads.definite)).mp same
    rcases Prod.Lex.toLex_le_toLex.mp (leads.le member definite) with lower | ⟨_, named⟩
    · exact absurd level lower.ne
    · exact named
  earliest := by
    refine ⟨earlier, later, rfl, fun model before same family => ?_⟩
    have definite := Double.isFinite_of_beq same leads.definite
    exact (leads.above model before definite).ne
      ((standing_eq_iff definite leads.definite).mpr ⟨same, family⟩)

/-- Two models of one family that explain the same part. The two zeros are one number, and of
no other number are there two. -/
structure Alike (model other : Model Float) : Prop where
  family : model.family = other.family
  level : (model.rSquare == other.rSquare) = true
  identical : (model.rSquare == 0.0) = false → model.rSquare = other.rSquare

theorem alike_of_standing_eq {model other : Model Float} (definite : model.rSquare.isFinite = true)
    (definite' : other.rSquare.isFinite = true) (same : model.standing = other.standing) :
    model.Alike other := by
  obtain ⟨level, family⟩ := (standing_eq_iff definite definite').mp same
  have number := Double.not_isNaN_of_isFinite definite
  have number' := Double.not_isNaN_of_isFinite definite'
  exact ⟨family, level,
    Double.eq_of_place_eq number number' ((Double.beq_iff_place number number').mp level)⟩

/-- Of the same models in another order an alike model is the best. -/
theorem alike_of_perm {models others : List (Model Float)} (perm : others.Perm models)
    {best other : Model Float} (found : selectBest? models = some best)
    (found' : selectBest? others = some other) : best.Alike other := by
  have member := perm.mem_iff.mpr (mem_of_selectBest? found)
  have member' := perm.mem_iff.mp (mem_of_selectBest? found')
  obtain ⟨earlier, later, rfl, leads⟩ := leads_of_selectBest? found
  obtain ⟨earlier', later', rfl, leads'⟩ := leads_of_selectBest? found'
  have above := leads.le member' leads'.definite
  have below := leads'.le member leads.definite
  exact alike_of_standing_eq leads.definite leads'.definite (le_antisymm below above)

theorem selectBest?_perm {models others : List (Model Float)} (perm : others.Perm models) :
    Option.Rel Alike (selectBest? models) (selectBest? others) := by
  have unknown : selectBest? models = none ↔ selectBest? others = none := by
    rw [selectBest?_eq_none_iff, selectBest?_eq_none_iff]
    exact ⟨fun all model member => all model (perm.mem_iff.mp member),
      fun all model member => all model (perm.mem_iff.mpr member)⟩
  cases found : selectBest? models with
  | none =>
    rw [unknown.mp found]
    exact .none
  | some best =>
    cases found' : selectBest? others with
    | none => rw [unknown.mpr found'] at found; cases found
    | some other => exact .some (alike_of_perm perm found found')

theorem selectBest?_eq_of_perm {models others : List (Model Float)} (perm : others.Perm models)
    (once : (models.map (·.family)).Nodup) : selectBest? others = selectBest? models := by
  have alike := selectBest?_perm perm
  generalize found : selectBest? models = best? at alike ⊢
  generalize found' : selectBest? others = other? at alike ⊢
  cases alike with
  | none => rfl
  | some alike =>
    have member := mem_of_selectBest? found
    have member' := perm.mem_iff.mp (mem_of_selectBest? found')
    rw [List.inj_on_of_nodup_map once member member' alike.family]

/-- The best of the models that are kept by family, which are looked at in the order of families. -/
def selectBestByFamily? {α : Type} [Scalar α] (byFamily : Family → Option (Model α)) :
    Option (Model α) :=
  selectBest? (Family.all.filterMap byFamily)

/-- The models that can be fitted to some observations, by family. -/
def fitted {α : Type} [Scalar α] (observations : List (Observation α)) (family : Family) :
    Option (Model α) :=
  (fit family observations).toOption

theorem nodup_byFamily {α : Type} {byFamily : Family → Option (Model α)}
    (own : ∀ family, ∀ model ∈ byFamily family, model.family = family) :
    ((Family.all.filterMap byFamily).map (·.family)).Nodup := by
  rw [List.map_filterMap]
  refine List.Nodup.filterMap (fun family other name found found' => ?_) (by decide)
  obtain ⟨model, kept, rfl⟩ := Option.mem_map.mp found
  obtain ⟨model', kept', same⟩ := Option.mem_map.mp found'
  rw [← own family model kept, ← own other model' kept', same]

theorem family_of_mem_fitted {α : Type} [Scalar α] {observations : List (Observation α)}
    {family : Family} {model : Model α} (found : model ∈ fitted observations family) :
    model.family = family := by
  unfold fitted at found
  cases outcome : fit family observations with
  | error failure => rw [outcome] at found; cases found
  | ok model =>
    rw [outcome] at found
    cases found
    exact family_of_fit outcome

theorem selectBest?_of_perm_byFamily {byFamily : Family → Option (Model Float)}
    (own : ∀ family, ∀ model ∈ byFamily family, model.family = family)
    {models : List (Model Float)} (perm : models.Perm (Family.all.filterMap byFamily)) :
    selectBest? models = selectBestByFamily? byFamily :=
  selectBest?_eq_of_perm perm (nodup_byFamily own)

/-- What is selected from some models, in whatever order they come and whatever numbers they
carry. -/
theorem selectBest?_isBest (models : List (Model Float)) :
    (selectBest? models = none ↔ ∀ model ∈ models, model.rSquare.isFinite = false) ∧
      (∀ best, selectBest? models = some best → best.IsBest models) ∧
      (∀ others, others.Perm models →
        Option.Rel Alike (selectBest? models) (selectBest? others) ∧
          ((models.map (·.family)).Nodup → selectBest? others = selectBest? models)) ∧
      (∀ byFamily : Family → Option (Model Float),
        (∀ family, ∀ model ∈ byFamily family, model.family = family) →
        models.Perm (Family.all.filterMap byFamily) →
          selectBest? models = selectBestByFamily? byFamily) ∧
      ∀ observations : List (Observation Float), models.Perm (fitAll observations) →
        selectBest? models = selectBestByFamily? (fitted observations) := by
  refine ⟨selectBest?_eq_none_iff, fun best found => ?_,
    fun others perm => ⟨selectBest?_perm perm, selectBest?_eq_of_perm perm⟩,
    fun byFamily own perm => selectBest?_of_perm_byFamily own perm,
    fun observations perm =>
      selectBest?_of_perm_byFamily (fun _ _ found => family_of_mem_fitted found)
        (fitAll_eq observations ▸ perm)⟩
  obtain ⟨earlier, later, rfl, leads⟩ := leads_of_selectBest? found
  exact leads.isBest

def explaining (family : Family) (rSquare first : Float) : Model Float :=
  ⟨family, [first], rSquare, 1.0, 2.0⟩

/-- Three models explain a part of zero, two of them of one family, and the parts of two others
are not finite. -/
def tied : List (Model Float) :=
  [explaining .constant (0.0 / 0.0) 1.0, explaining .power (1.0 / 0.0) 1.0,
    explaining .quadratic 0.0 1.0, explaining .linear (-0.0) 1.0, explaining .linear 0.0 2.0,
    explaining .exponential (-1.0) 1.0]

def sloped (family : Family) : Option (Model Float) :=
  if family = .constant then none else some (explaining family 0.5 1.0)

theorem selectBest?_isBest_tied :
    let best := explaining .linear (-0.0) 1.0
    selectBest? tied = some best ∧ best.IsBest tied ∧
      selectBest? tied.reverse = some (explaining .linear 0.0 2.0) ∧
      Option.Rel Alike (selectBest? tied) (selectBest? tied.reverse) ∧
      selectBest? (tied.take 2) = none ∧
      selectBest? (Family.all.filterMap sloped).reverse =
        selectBest? (Family.all.filterMap sloped) ∧
      selectBest? (Family.all.filterMap sloped).reverse = selectBestByFamily? sloped ∧
      selectBest? (fitAll [⟨1.0, 2.0⟩]) = selectBestByFamily? (fitted [⟨1.0, 2.0⟩]) := by
  intro best
  have found : selectBest? tied = some best := rfl
  have own : ∀ family, ∀ model ∈ sloped family, model.family = family := by
    intro family model kept
    cases family <;> cases kept <;> rfl
  refine ⟨found, (selectBest?_isBest tied).2.1 best found, rfl,
    ((selectBest?_isBest tied).2.2.1 _ tied.reverse_perm).1,
    (selectBest?_isBest (tied.take 2)).1.mpr (by decide +kernel),
    ((selectBest?_isBest _).2.2.1 _ (List.reverse_perm _)).2 (by decide),
    (selectBest?_isBest _).2.2.2.1 sloped own (List.reverse_perm _),
    (selectBest?_isBest _).2.2.2.2 [⟨1.0, 2.0⟩] (.refl _)⟩

end ProfileDrift.Model
