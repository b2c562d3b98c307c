import Mathlib.Data.List.Forall2

namespace ProfileDrift

variable {ε β γ : Type}

theorem bind_eq_ok {first : Except ε β} {next : β → Except ε γ} {result : γ}
    (succeeded : first >>= next = .ok result) :
    ∃ value, first = .ok value ∧ next value = .ok result := by
  cases first with
  | error failure => cases succeeded
  | ok value => exact ⟨value, rfl, succeeded⟩

theorem bind_eq_ok_iff {first : Except ε β} {next : β → Except ε γ} {result : γ} :
    first >>= next = .ok result ↔ ∃ value, first = .ok value ∧ next value = .ok result := by
  refine ⟨bind_eq_ok, ?_⟩
  rintro ⟨value, rfl, continued⟩
  exact continued

theorem bind_eq_error {first : Except ε β} {next : β → Except ε γ} {failure : ε}
    (failed : first >>= next = .error failure) :
    first = .error failure ∨ ∃ value, first = .ok value ∧ next value = .error failure := by
  cases first with
  | error other => exact .inl (congrArg Except.error (Except.error.inj failed))
  | ok value => exact .inr ⟨value, rfl, failed⟩

/-- A check that throws unless something holds is passed where it holds. -/
theorem unless_throw_eq_ok_iff {holds : Prop} [Decidable holds] {error : ε} {rest : Except ε β}
    {result : β} :
    (if (!decide holds) = true then throw error else rest) = .ok result ↔
      holds ∧ rest = .ok result := by
  by_cases held : holds
  · simp only [held, decide_true, Bool.not_true, Bool.false_eq_true, if_false, true_and]
  · simp only [held, decide_false, Bool.not_false, if_true, false_and, iff_false]
    exact nofun

theorem map_eq_ok {first : Except ε β} {change : β → γ} {result : γ}
    (succeeded : first.map change = .ok result) :
    ∃ value, first = .ok value ∧ change value = result := by
  cases first with
  | error failure => cases succeeded
  | ok value => exact ⟨value, rfl, Except.ok.inj succeeded⟩

theorem mapError_eq_ok {δ : Type} {first : Except ε β} {change : ε → δ} {result : β}
    (succeeded : first.mapError change = .ok result) : first = .ok result := by
  cases first with
  | error failure => cases succeeded
  | ok value => exact congrArg Except.ok (Except.ok.inj succeeded)

theorem mapError_eq_error {δ : Type} {first : Except ε β} {change : ε → δ} {failure : δ}
    (failed : first.mapError change = .error failure) :
    ∃ cause, first = .error cause ∧ change cause = failure := by
  cases first with
  | error cause => exact ⟨cause, rfl, Except.error.inj failed⟩
  | ok value => cases failed

/-- Whatever a list of computations yields is what one of them yields. -/
theorem mem_of_mapM_eq_ok {run : β → Except ε γ} {items : List β} {results : List γ}
    (succeeded : items.mapM run = .ok results) :
    ∀ result ∈ results, ∃ item ∈ items, run item = .ok result := by
  induction items generalizing results with
  | nil =>
    cases succeeded
    exact fun result member => absurd member List.not_mem_nil
  | cons item rest ih =>
    rw [List.mapM_cons] at succeeded
    obtain ⟨first, here, succeeded⟩ := bind_eq_ok succeeded
    obtain ⟨others, there, made⟩ := bind_eq_ok succeeded
    cases made
    intro result member
    rcases List.mem_cons.mp member with same | later
    · exact ⟨item, List.mem_cons_self .., same ▸ here⟩
    · obtain ⟨origin, inside, yields⟩ := ih there result later
      exact ⟨origin, .tail _ inside, yields⟩

/-- Gathering what computations yield one by one is gathering it when all have succeeded. -/
theorem foldlM_map_eq {δ : Type} (run : β → Except ε γ) (gather : δ → γ → δ) (items : List β)
    (start : δ) :
    items.foldlM (fun gathered item => (run item).map (gather gathered)) start =
      (items.mapM run).map (·.foldl gather start) := by
  induction items generalizing start with
  | nil => rfl
  | cons item rest ih =>
    rw [List.foldlM_cons, List.mapM_cons]
    cases run item with
    | error failure => rfl
    | ok result =>
      change rest.foldlM _ (gather start result) = _
      rw [ih]
      cases rest.mapM run <;> rfl

/-- Items are taken in turn if each of them is acceptable, whatever was taken before it. -/
theorem foldlM_eq_ok_iff {step : γ → β → Except ε γ} (accepts : β → Prop) (take : γ → β → γ)
    (taken : ∀ state item, accepts item → step state item = .ok (take state item))
    (refused : ∀ state item, ¬ accepts item → ∃ error, step state item = .error error)
    {items : List β} {start result : γ} :
    items.foldlM step start = .ok result ↔
      (∀ item ∈ items, accepts item) ∧ items.foldl take start = result := by
  induction items generalizing start with
  | nil =>
    rw [List.foldlM_nil, List.foldl_nil, and_iff_right (List.forall_mem_nil _)]
    exact ⟨Except.ok.inj, congrArg Except.ok⟩
  | cons item items ih =>
    rw [List.foldlM_cons, List.foldl_cons, List.forall_mem_cons]
    by_cases acceptable : accepts item
    · rw [taken start item acceptable, and_iff_right acceptable]
      exact ih
    · obtain ⟨error, failed⟩ := refused start item acceptable
      rw [failed]
      exact iff_of_false nofun fun ⟨⟨acceptable', _⟩, _⟩ => acceptable acceptable'

/-- A list of computations succeeds if each of them does, and yields what they yield. -/
theorem mapM_eq_ok_iff {run : β → Except ε γ} {items : List β} {results : List γ} :
    items.mapM run = .ok results ↔
      List.Forall₂ (fun item result => run item = .ok result) items results := by
  constructor
  · intro succeeded
    induction items generalizing results with
    | nil =>
      cases succeeded
      exact .nil
    | cons item rest ih =>
      rw [List.mapM_cons] at succeeded
      obtain ⟨first, here, succeeded⟩ := bind_eq_ok succeeded
      obtain ⟨others, there, made⟩ := bind_eq_ok succeeded
      cases made
      exact .cons here (ih there)
  · intro each
    induction each with
    | nil => rfl
    | cons here _ ih =>
      rw [List.mapM_cons, here, ih]
      rfl

theorem exists_of_mapM_eq_ok {run : β → Except ε γ} {items : List β} {results : List γ}
    (succeeded : items.mapM run = .ok results) :
    ∀ item ∈ items, ∃ result ∈ results, run item = .ok result := by
  have each := mapM_eq_ok_iff.mp succeeded
  clear succeeded
  induction each with
  | nil => exact fun item member => absurd member List.not_mem_nil
  | cons here _ ih =>
    intro item member
    rcases List.mem_cons.mp member with rfl | later
    · exact ⟨_, List.mem_cons_self .., here⟩
    · obtain ⟨result, inside, yields⟩ := ih item later
      exact ⟨result, .tail _ inside, yields⟩

/-- The first computation that fails decides how a list of computations fails. -/
theorem mapM_eq_error_iff {run : β → Except ε γ} {items : List β} {failure : ε} :
    items.mapM run = .error failure ↔
      ∃ earlier item later, items = earlier ++ item :: later ∧
        (∀ other ∈ earlier, ∃ result, run other = .ok result) ∧ run item = .error failure := by
  constructor
  · intro failed
    induction items with
    | nil => cases failed
    | cons item rest ih =>
      rw [List.mapM_cons] at failed
      cases here : run item with
      | error other =>
        rw [here] at failed
        cases failed
        exact ⟨[], item, rest, rfl, fun _ member => absurd member List.not_mem_nil, here⟩
      | ok result =>
        cases there : rest.mapM run with
        | ok results =>
          rw [here, there] at failed
          cases failed
        | error other =>
          rw [here, there] at failed
          cases failed
          obtain ⟨earlier, culprit, later, rfl, succeed, fails⟩ := ih there
          refine ⟨item :: earlier, culprit, later, rfl, fun other member => ?_, fails⟩
          rcases List.mem_cons.mp member with rfl | before
          · exact ⟨result, here⟩
          · exact succeed other before
  · rintro ⟨earlier, item, later, rfl, succeed, fails⟩
    induction earlier with
    | nil =>
      rw [List.nil_append, List.mapM_cons, fails]
      rfl
    | cons first earlier ih =>
      obtain ⟨result, here⟩ := succeed first (List.mem_cons_self ..)
      rw [List.cons_append, List.mapM_cons, here,
        ih fun other member => succeed other (List.mem_cons_of_mem _ member)]
      rfl

end ProfileDrift
