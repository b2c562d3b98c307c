import ProfileDrift.Baseline.Cache

namespace ProfileDrift

/-- Where the search for a baseline has led, and how many versions it inspected,
the one with the baseline included. -/
inductive Pairing (α : Type) where
  | found (version : VersionId) (reference : ProfileRef) (profile : Profile α) (visited : Nat)
  | notFound (visited : Nat)

namespace Pairing

def visited {α : Type} : Pairing α → Nat
  | found _ _ _ visited => visited
  | notFound visited => visited

end Pairing

/-- Which versions a search has met, and which of them it has still to inspect,
the next one first. -/
structure Frontier where
  seen : List VersionId
  queue : List VersionId

namespace Frontier

/-- Before the search nothing but the target has been met. -/
def start (target : VersionId) : Frontier := ⟨[target], []⟩

/-- A version met for the first time is queued behind the others. -/
def meet (frontier : Frontier) (version : VersionId) : Frontier :=
  if version ∈ frontier.seen then frontier
  else ⟨version :: frontier.seen, frontier.queue ++ [version]⟩

def meetAll (frontier : Frontier) (versions : List VersionId) : Frontier :=
  versions.foldl meet frontier

def unmet (frontier : Frontier) (versions : List VersionId) : Nat :=
  versions.countP fun version => version ∉ frontier.seen

theorem unmet_meet_le (frontier : Frontier) (version : VersionId) (versions : List VersionId) :
    (frontier.meet version).unmet versions ≤ frontier.unmet versions := by
  unfold meet unmet
  split
  · exact Nat.le_refl _
  · exact List.countP_mono_left fun other _ fresh => by
      simp only [List.mem_cons, not_or, decide_eq_true_eq] at fresh ⊢
      exact fresh.2

theorem unmet_meetAll_le (frontier : Frontier) (found versions : List VersionId) :
    (frontier.meetAll found).unmet versions ≤ frontier.unmet versions := by
  induction found generalizing frontier with
  | nil => exact Nat.le_refl _
  | cons version rest ih =>
    exact Nat.le_trans (ih (frontier.meet version)) (unmet_meet_le frontier version versions)

theorem unmet_lt_of_meet {frontier : Frontier} {version : VersionId} {versions : List VersionId}
    (fresh : version ∉ frontier.seen) (member : version ∈ versions) :
    (frontier.meet version).unmet versions < frontier.unmet versions := by
  unfold meet unmet
  rw [if_neg fresh]
  induction versions with
  | nil => cases member
  | cons head rest ih =>
    have tail : rest.countP (fun other => decide (other ∉ version :: frontier.seen)) ≤
        rest.countP (fun other => decide (other ∉ frontier.seen)) :=
      List.countP_mono_left fun other _ unseen => by
        simp only [List.mem_cons, not_or, decide_eq_true_eq] at unseen ⊢
        exact unseen.2
    simp only [List.countP_cons]
    rcases List.mem_cons.mp member with here | there
    · subst here
      simp only [List.mem_cons, true_or, not_true_eq_false, decide_false, fresh,
        not_false_eq_true, decide_true, if_true]
      simp only [List.mem_cons] at tail
      exact Nat.lt_succ_of_le tail
    · have smaller := ih there
      by_cases same : head = version
      · simp only [same, List.mem_cons, true_or, not_true_eq_false, decide_false, fresh,
          not_false_eq_true, decide_true, if_true]
        simp only [List.mem_cons] at tail
        exact Nat.lt_succ_of_le tail
      · simp only [List.mem_cons, same, false_or] at smaller ⊢
        exact Nat.add_lt_add_right smaller _

/-- Meeting versions of a finite set either leaves the frontier as it is or uses
up some of the versions not met before. -/
theorem meetAll_eq_or_unmet_lt (frontier : Frontier) {found versions : List VersionId}
    (within : ∀ version ∈ found, version ∈ versions) :
    frontier.meetAll found = frontier ∨
      (frontier.meetAll found).unmet versions < frontier.unmet versions := by
  induction found with
  | nil => exact .inl rfl
  | cons version rest ih =>
    have later := ih fun other member => within other (List.mem_cons_of_mem _ member)
    by_cases met : version ∈ frontier.seen
    · have same : frontier.meet version = frontier := if_pos met
      simpa only [meetAll, List.foldl_cons, same] using later
    · exact .inr (Nat.lt_of_le_of_lt (unmet_meetAll_le (frontier.meet version) rest versions)
        (unmet_lt_of_meet met (within version (List.mem_cons_self ..))))

theorem mem_queue_meetAll {frontier : Frontier} {found : List VersionId} {version : VersionId}
    (queued : version ∈ (frontier.meetAll found).queue) :
    version ∈ frontier.queue ∨ version ∈ found := by
  induction found generalizing frontier with
  | nil => exact .inl queued
  | cons first rest ih =>
    rcases ih queued with before | later
    · unfold meet at before
      split at before
      · exact .inl before
      · rcases List.mem_append.mp before with before | here
        · exact .inl before
        · exact .inr (List.mem_singleton.mp here ▸ List.mem_cons_self ..)
    · exact .inr (List.mem_cons_of_mem _ later)

/-- A search that has inspected a version goes on without its parents, or with them. -/
inductive Follows (history : History) : Frontier → Frontier → Prop where
  | past {seen rest : List VersionId} {version : VersionId} :
    Follows history ⟨seen, rest⟩ ⟨seen, version :: rest⟩
  | beyond {seen rest parents : List VersionId} {version : VersionId} :
    history.parents version = .ok parents →
      Follows history (meetAll ⟨seen, rest⟩ parents) ⟨seen, version :: rest⟩

/-- In a finite region a search cannot go on forever: each step takes a version from the
queue, and only versions of the region that were not met before are added. -/
theorem accessible_within {history : History} {region : List VersionId}
    (closed : ∀ member ∈ region, ∀ found, history.parents member = .ok found →
      ∀ parent ∈ found, parent ∈ region) :
    ∀ frontier : Frontier, (∀ version ∈ frontier.queue, version ∈ region) →
      Acc (Follows history) frontier
  | ⟨_, []⟩, _ => ⟨_, fun _ follows => nomatch follows⟩
  | ⟨seen, version :: rest⟩, within => by
    refine Acc.intro _ fun next follows => ?_
    have restWithin : ∀ other ∈ rest, other ∈ region := fun other member =>
      within other (List.mem_cons_of_mem _ member)
    cases follows with
    | past => exact accessible_within closed ⟨seen, rest⟩ restWithin
    | @beyond _ _ parents _ answered =>
      have parentsWithin := closed version (within version (List.mem_cons_self ..)) parents answered
      refine accessible_within closed (meetAll ⟨seen, rest⟩ parents) fun other queued => ?_
      rcases mem_queue_meetAll queued with before | parent
      · exact restWithin other before
      · exact parentsWithin other parent
termination_by frontier => (frontier.unmet region, frontier.queue.length)
decreasing_by
  · exact Prod.Lex.right _ (Nat.lt_succ_self _)
  · rcases meetAll_eq_or_unmet_lt ⟨seen, rest⟩ parentsWithin with same | fewer
    · rw [same]
      exact Prod.Lex.right _ (Nat.lt_succ_self _)
    · exact Prod.Lex.left _ _ fewer

/-- Finitely many versions lie in one finite region together. -/
theorem exists_region (history : History) (versions : List VersionId) :
    ∃ region : List VersionId, (∀ version ∈ versions, version ∈ region) ∧
      ∀ member ∈ region, ∀ found, history.parents member = .ok found →
        ∀ parent ∈ found, parent ∈ region := by
  induction versions with
  | nil => exact ⟨[], fun _ member => member, fun _ member => absurd member List.not_mem_nil⟩
  | cons version rest ih =>
    obtain ⟨here, present, closedHere⟩ := history.finite version
    obtain ⟨there, covered, closedThere⟩ := ih
    refine ⟨here ++ there, ?_, fun member among found answered parent next => ?_⟩
    · intro other member
      rcases List.mem_cons.mp member with rfl | later
      · exact List.mem_append_left _ present
      · exact List.mem_append_right _ (covered other later)
    · rcases List.mem_append.mp among with left | right
      · exact List.mem_append_left _ (closedHere member left found answered parent next)
      · exact List.mem_append_right _ (closedThere member right found answered parent next)

theorem follows_wellFounded (history : History) : WellFounded (Follows history) := by
  refine ⟨fun frontier => ?_⟩
  obtain ⟨region, covered, closed⟩ := exists_region history frontier.queue
  exact accessible_within closed frontier covered

/-- A frontier of a search in a history, which tells what may follow it. -/
structure Within (history : History) where
  frontier : Frontier

instance (history : History) : WellFoundedRelation (Within history) where
  rel next current := Follows history next.frontier current.frontier
  wf := InvImage.wf Within.frontier (follows_wellFounded history)

end Frontier

namespace Baseline

variable {α : Type}

def matching? (configuration : Configuration) (profiles : List (ProfileRef × Profile α)) :
    Option (ProfileRef × Profile α) :=
  profiles.find? fun (_, profile) => profile.configuration = configuration

/-- Inspects queued versions in turn, each once. A version without a match is
followed to its parents unless it is a root. -/
def search (configuration : Configuration) (history : History) (store : Store α) :
    Frontier → Nat → Reading α StoreError (Pairing α)
  | ⟨_, []⟩, visited => pure (.notFound visited)
  | ⟨seen, version :: rest⟩, visited => do
    let profiles ← Cache.profilesOf store version
    match matching? configuration profiles with
    | some (reference, profile) => return .found version reference profile (visited + 1)
    | none =>
      let root ← Reading.ask (history.isRoot version)
      if root then search configuration history store ⟨seen, rest⟩ (visited + 1)
      else
        match answered : history.parents version with
        | .error fault => Reading.ask (.error fault)
        | .ok parents =>
          search configuration history store (Frontier.meetAll ⟨seen, rest⟩ parents) (visited + 1)
termination_by frontier => (⟨frontier⟩ : Frontier.Within history)
decreasing_by
  · exact .past
  · exact .beyond answered

/-- The profile with the given configuration on the nearest ancestor of a version.
Ancestors are searched breadth first, the first parent of a version before its
others, and the version itself is no ancestor of its own. -/
def find (configuration : Configuration) (history : History) (store : Store α)
    (target : VersionId) : Reading α StoreError (Pairing α) := do
  let parents ← Reading.ask (history.parents target)
  search configuration history store ((Frontier.start target).meetAll parents) 0

end Baseline

end ProfileDrift
