import ProfileDrift.Proofs.KeyedGroups
import ProfileDrift.Store.Archive

namespace ProfileDrift

section Entries

open Keyed

variable {κ β : Type} [DecidableEq κ]

theorem Archive.lookup_put (entries : List (κ × β)) (name key : κ) (value : β) :
    (put entries name value).lookup key = if key = name then some value else entries.lookup key := by
  induction entries with
  | nil => rw [put, lookup_cons_eq_if]
  | cons entry rest ih =>
    obtain ⟨first, old⟩ := entry
    rw [put]
    by_cases here : first = name
    · subst here
      rw [if_pos (beq_self_eq_true first), lookup_cons_eq_if, lookup_cons_eq_if]
      by_cases same : key = first
      · rw [if_pos same, if_pos same]
      · rw [if_neg same, if_neg same, if_neg same]
    · rw [if_neg (by simpa using here), lookup_cons_eq_if, lookup_cons_eq_if, ih]
      by_cases same : key = first
      · rw [if_pos same, if_pos same, if_neg fun other => here (same ▸ other)]
      · rw [if_neg same, if_neg same]

theorem VersionGraph.lookup_renewed (entries : List (κ × β)) (name : κ) (value : β) {key : κ}
    (apart : key ≠ name) :
    (entries.map fun entry => if entry.1 = name then (name, value) else entry).lookup key =
      entries.lookup key := by
  induction entries with
  | nil => rfl
  | cons entry rest ih =>
    obtain ⟨first, old⟩ := entry
    rw [List.map_cons]
    by_cases here : first = name
    · rw [if_pos here, lookup_cons_eq_if, lookup_cons_eq_if, if_neg apart,
        if_neg (here ▸ apart), ih]
    · rw [if_neg here, lookup_cons_eq_if, lookup_cons_eq_if, ih]

end Entries

/-- Adding a version tells nothing about any other version. -/
theorem VersionGraph.parents?_add_of_ne (graph : VersionGraph) {added version : VersionId}
    (parents : List VersionId) (apart : version ≠ added) :
    (graph.add added parents).parents? version = graph.parents? version := by
  unfold add
  split
  · exact lookup_renewed graph.parents added parents apart
  · change (graph.parents ++ _).lookup version = graph.parents.lookup version
    rw [List.lookup_append, Keyed.lookup_cons_eq_if, if_neg apart, List.lookup_nil, Option.or_none]

namespace Archive

variable (archive : Archive) (version : VersionId) (profile : Profile Float)

theorem object?_insert (reference : ProfileRef) :
    (archive.insert version profile).1.object? reference =
      if reference = profile.address then some profile else archive.object? reference :=
  lookup_put ..

theorem listing_insert_of_ne {other : VersionId} (apart : other ≠ version) :
    (archive.insert version profile).1.listing other = archive.listing other := by
  change ((put archive.index version _).lookup other).getD [] = _
  rw [lookup_put, if_neg apart]
  rfl

end Archive

end ProfileDrift
