import Mathlib.Data.List.Induction
import ProfileDrift.History.Basic

namespace ProfileDrift

section Distinct

variable {β : Type} [BEq β] [LawfulBEq β]

/-- One more item at the end of a list is one more distinct item unless it was there
before. -/
theorem eraseDups_concat (items : List β) (item : β) :
    (items ++ [item]).eraseDups = items.eraseDups ++ if items.contains item then [] else [item] := by
  rw [List.eraseDups_append, List.cons_removeAll, List.nil_removeAll]
  cases items.contains item <;> simp [List.eraseDups_cons]

theorem eraseDups_prefix {short long : List β} (initial : short <+: long) :
    short.eraseDups <+: long.eraseDups := by
  obtain ⟨rest, rfl⟩ := initial
  rw [List.eraseDups_append]
  exact List.prefix_append ..

theorem nodup_eraseDups (items : List β) : items.eraseDups.Nodup := by
  induction items using List.reverseRecOn with
  | nil => exact .nil
  | append_singleton items item ih =>
    rw [eraseDups_concat]
    cases known : items.contains item with
    | true => simpa using ih
    | false =>
      have fresh : item ∉ items := by simpa using known
      simpa [List.nodup_append, ih] using fun other member (same : other = item) =>
        fresh (same ▸ member)

end Distinct

namespace History

variable (history : History) (target : VersionId)

/-- The versions next to a version on the way to the ancestors of a target: its
parents in their order, but none from a root, unless the root is the target. -/
def edges (version : VersionId) : List VersionId :=
  match history.isRoot version, history.parents version with
  | .ok true, .ok parents => if version = target then parents else []
  | _, .ok parents => parents
  | _, .error _ => []

/-- A version is so many edges away from the target, though there may be a shorter
way. -/
inductive Path : Nat → VersionId → Prop
  | start : Path 0 target
  | edge {length version parent} :
      Path length version → parent ∈ history.edges target version → Path (length + 1) parent

/-- A version is so many edges away from the target and no shorter way leads to it. -/
def IsDistance (length : Nat) (version : VersionId) : Prop :=
  history.Path target length version ∧
    ∀ shorter, shorter < length → ¬ history.Path target shorter version

/-- The versions that are at most so many edges away from the target, in breadth first
order: the target, and then the parents of each nearer version in turn, where each
version stands only where it first comes up. -/
def breadthFirst : Nat → List VersionId
  | 0 => [target]
  | length + 1 => (target :: (breadthFirst length).flatMap (history.edges target)).eraseDups

variable {history target}

theorem mem_breadthFirst {length : Nat} {version : VersionId} :
    version ∈ history.breadthFirst target length ↔
      ∃ steps, steps ≤ length ∧ history.Path target steps version := by
  induction length generalizing version with
  | zero =>
    constructor
    · intro member
      rw [List.mem_singleton.mp member]
      exact ⟨0, Nat.le_refl 0, .start⟩
    · rintro ⟨steps, bound, path⟩
      cases path with
      | start => exact List.mem_singleton.mpr rfl
      | edge => omega
  | succ length ih =>
    rw [breadthFirst, List.mem_eraseDups, List.mem_cons, List.mem_flatMap]
    constructor
    · rintro (same | ⟨before, member, next⟩)
      · rw [same]
        exact ⟨0, Nat.zero_le _, .start⟩
      · obtain ⟨steps, bound, path⟩ := ih.mp member
        exact ⟨steps + 1, by omega, .edge path next⟩
    · rintro ⟨steps, bound, path⟩
      cases path with
      | start => exact .inl rfl
      | @edge steps before _ path next => exact .inr ⟨before, ih.mpr ⟨steps, by omega, path⟩, next⟩

theorem breadthFirst_nodup (length : Nat) : (history.breadthFirst target length).Nodup := by
  cases length with
  | zero => exact List.pairwise_singleton _ target
  | succ length => exact nodup_eraseDups _

theorem discovered_prefix {short long : List VersionId} (initial : short <+: long) :
    (target :: short.flatMap (history.edges target)).eraseDups <+:
      (target :: long.flatMap (history.edges target)).eraseDups := by
  obtain ⟨rest, rfl⟩ := initial
  rw [List.flatMap_append, ← List.cons_append]
  exact eraseDups_prefix (List.prefix_append ..)

/-- What is further away comes later. -/
theorem breadthFirst_prefix {near far : Nat} (within : near ≤ far) :
    history.breadthFirst target near <+: history.breadthFirst target far := by
  have next (length : Nat) :
      history.breadthFirst target length <+: history.breadthFirst target (length + 1) := by
    induction length with
    | zero =>
      change [target].eraseDups <+: (target :: [target].flatMap (history.edges target)).eraseDups
      exact eraseDups_prefix (List.prefix_append [target] _)
    | succ length ih => exact discovered_prefix ih
  induction within with
  | refl => exact List.prefix_rfl
  | step _ ih => exact ih.trans (next _)

/-- Whoever follows versions in the order in which they are discovered comes to a
reachable version in breadth first order: exactly what was followed stands before it,
and this is all that is nearer to the target. -/
theorem breadthFirst_of_discovered {followed rest : List VersionId} {version : VersionId}
    (begins : [target] <+: followed)
    (discovered : followed ++ version :: rest =
      (target :: followed.flatMap (history.edges target)).eraseDups)
    (reachable : ∃ steps, history.Path target steps version) :
    ∃ length later, history.IsDistance target length version ∧
      history.breadthFirst target length = followed ++ version :: later ∧
      ∀ shorter nearer, shorter < length → history.Path target shorter nearer →
        nearer ∈ followed := by
  have fresh : version ∉ followed := by
    have distinct := nodup_eraseDups (target :: followed.flatMap (history.edges target))
    rw [← discovered] at distinct
    intro member
    exact (List.nodup_append.mp distinct).2.2 version member version (List.mem_cons_self ..) rfl
  -- the last distance up to which every version has been followed
  have ⟨length, inside, outside⟩ : ∃ length, history.breadthFirst target length <+: followed ∧
      ¬ history.breadthFirst target (length + 1) <+: followed := by
    obtain ⟨steps, path⟩ := reachable
    apply Classical.byContradiction
    intro never
    have all : ∀ length, history.breadthFirst target length <+: followed := by
      intro length
      induction length with
      | zero => exact begins
      | succ length ih =>
        exact Classical.byContradiction fun outside => never ⟨length, ih, outside⟩
    exact fresh ((all steps).subset (mem_breadthFirst.mpr ⟨steps, Nat.le_refl _, path⟩))
  have next : history.breadthFirst target (length + 1) <+: followed ++ version :: rest := by
    rw [discovered]
    exact discovered_prefix inside
  obtain ⟨later, split⟩ : ∃ later, history.breadthFirst target (length + 1) =
      followed ++ version :: later := by
    rcases List.prefix_or_prefix_of_prefix next (List.prefix_append ..) with short | long
    · exact absurd short outside
    · obtain ⟨later, split⟩ := long
      rw [← split, List.prefix_append_right_inj] at next
      cases later with
      | nil =>
        rw [List.append_nil] at split
        exact absurd (split ▸ List.prefix_rfl) outside
      | cons head later =>
        rw [(List.cons_prefix_cons.mp next).1] at split
        exact ⟨later, split.symm⟩
  have nearer : ∀ shorter other, shorter < length + 1 → history.Path target shorter other →
      other ∈ followed := fun shorter other bound path =>
    inside.subset (mem_breadthFirst.mpr ⟨shorter, by omega, path⟩)
  have member : version ∈ history.breadthFirst target (length + 1) := by
    rw [split]
    exact List.mem_append_right followed (List.mem_cons_self ..)
  obtain ⟨steps, bound, path⟩ := mem_breadthFirst.mp member
  have steps_eq : steps = length + 1 := by
    rcases Nat.lt_or_ge steps (length + 1) with below | above
    · exact absurd (nearer steps version below path) fresh
    · omega
  rw [steps_eq] at path
  exact ⟨length + 1, later,
    ⟨path, fun shorter below shortcut => fresh (nearer shorter version below shortcut)⟩, split,
    nearer⟩

/-- Versions of which every edge leads back to one of them are all that can be
reached. -/
theorem mem_of_closed {followed : List VersionId} (begins : [target] <+: followed)
    (closed : followed = (target :: followed.flatMap (history.edges target)).eraseDups)
    {length : Nat} {version : VersionId} (path : history.Path target length version) :
    version ∈ followed := by
  induction path with
  | start => exact begins.subset (List.mem_singleton.mpr rfl)
  | @edge length before parent path next ih =>
    rw [closed, List.mem_eraseDups, List.mem_cons, List.mem_flatMap]
    exact .inr ⟨before, ih, next⟩

end History

end ProfileDrift
