import ProfileDrift.Baseline.Search
import ProfileDrift.Proofs.Reading

namespace ProfileDrift

/-- What a search goes on to from a version that it has inspected in vain: the
parents of the version, but nothing from a root. -/
def History.onward (history : History) (version : VersionId) : Answer (List VersionId) := do
  if ← history.isRoot version then return [] else history.parents version

theorem History.onward_eq_ok {history : History} {version : VersionId} {parents : List VersionId}
    (answered : history.onward version = .ok parents) :
    history.isRoot version = .ok true ∧ parents = [] ∨
      history.isRoot version = .ok false ∧ history.parents version = .ok parents := by
  unfold onward at answered
  cases root : history.isRoot version with
  | error fault => rw [root] at answered; cases answered
  | ok isRoot =>
    rw [root] at answered
    cases isRoot with
    | true => cases answered; exact .inl ⟨rfl, rfl⟩
    | false => exact .inr ⟨rfl, answered⟩

namespace Baseline

variable {α : Type} (configuration : Configuration) (history : History) (store : Store α)

/-- What a search does with what it finds under a version: a first match ends it, and
otherwise it goes on. -/
def foundOr {m : Type → Type} [Pure m] (version : VersionId) (visited : Nat)
    (goOn : m (Pairing α)) : Option (ProfileRef × Profile α) → m (Pairing α)
  | some (reference, profile) => pure (.found version reference profile visited)
  | none => goOn

/-- One round of the search with its two questions to the history asked at once. A
root needs no case of its own, because meeting no versions changes nothing. -/
theorem search_cons (seen rest : List VersionId) (version : VersionId) (visited : Nat) :
    search configuration history store ⟨seen, version :: rest⟩ visited =
      Cache.profilesOf store version >>= fun profiles =>
        foundOr version (visited + 1)
          (Reading.ask (history.onward version) >>= fun parents =>
            search configuration history store (Frontier.meetAll ⟨seen, rest⟩ parents)
              (visited + 1))
          (matching? configuration profiles) := by
  rw [search]
  congr 1
  funext profiles
  cases matching? configuration profiles with
  | some first => rfl
  | none =>
    unfold History.onward
    cases history.isRoot version with
    | error fault => rfl
    | ok root =>
      cases root with
      | true => rfl
      | false =>
        dsimp only
        rw [Reading.ask_ok_bind, if_neg Bool.false_ne_true]
        split
        · rename_i fault answered
          rw [answered]
          rfl
        · rename_i parents answered
          rw [answered]
          rfl

/-- Whatever holds of a search that has nothing left to inspect, and of every search
one of whose versions has been inspected in vain as soon as it holds of the search
that goes on above that version, holds of every search. -/
theorem search_induction {motive : Frontier → Nat → Prop}
    (exhausted : ∀ seen visited, motive ⟨seen, []⟩ visited)
    (inspected : ∀ seen version rest visited,
      (∀ parents, history.onward version = .ok parents →
        motive (Frontier.meetAll ⟨seen, rest⟩ parents) (visited + 1)) →
      motive ⟨seen, version :: rest⟩ visited)
    (frontier : Frontier) (visited : Nat) : motive frontier visited := by
  induction frontier, visited using search.induct history with
  | case1 seen visited => exact exhausted seen visited
  | case2 seen version rest visited fromRoot fromParents =>
    refine inspected seen version rest visited fun parents answered => ?_
    rcases History.onward_eq_ok answered with ⟨_, none⟩ | ⟨_, parentsAnswered⟩
    · subst none
      exact fromRoot
    · exact fromParents parents parentsAnswered

theorem search_settled (frontier : Frontier) (visited : Nat) :
    (search configuration history store frontier visited).Settled store := by
  induction frontier, visited using search_induction history with
  | exhausted seen visited =>
    rw [search]
    exact Reading.settled_pure store _
  | inspected seen version rest visited ih =>
    rw [search_cons]
    refine (Cache.profilesOf_settled store version).bind fun profiles _ => ?_
    cases matching? configuration profiles with
    | some first => exact Reading.settled_pure store _
    | none => exact (Reading.settled_ask store _).bind ih

/-- The search as it reads without a cache. -/
theorem alone_search_cons (seen rest : List VersionId) (version : VersionId) (visited : Nat) :
    (search configuration history store ⟨seen, version :: rest⟩ visited).alone =
      store.profilesOf version >>= fun profiles =>
        foundOr version (visited + 1)
          (history.onward version >>= fun parents =>
            (search configuration history store (Frontier.meetAll ⟨seen, rest⟩ parents)
              (visited + 1)).alone)
          (matching? configuration profiles) := by
  rw [search_cons, (Cache.profilesOf_settled store version).alone_bind, Cache.alone_profilesOf]
  · congr 1
    funext profiles
    cases matching? configuration profiles with
    | some first => rfl
    | none =>
      exact (Reading.settled_ask store _).alone_bind fun parents _ =>
        search_settled configuration history store _ _
  · intro profiles _
    cases matching? configuration profiles with
    | some first => exact Reading.settled_pure store _
    | none =>
      exact (Reading.settled_ask store _).bind fun parents _ =>
        search_settled configuration history store _ _

theorem find_settled (target : VersionId) :
    (find configuration history store target).Settled store :=
  (Reading.settled_ask store _).bind fun _ _ => search_settled configuration history store _ _

theorem alone_find (target : VersionId) :
    (find configuration history store target).alone =
      history.parents target >>= fun parents =>
        (search configuration history store ((Frontier.start target).meetAll parents) 0).alone :=
  (Reading.settled_ask store _).alone_bind fun _ _ => search_settled configuration history store _ _

end Baseline

end ProfileDrift
