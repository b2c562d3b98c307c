import ProfileDrift.History.Version

namespace ProfileDrift

/-- What a history or a store may answer instead of what was asked for. -/
inductive StoreError where
  | unknownVersion (version : VersionId)
  | unknownProfile (reference : ProfileRef)
  /-- What is kept under a reference is no profile, with the reason why. -/
  | malformed (reference source : String)
  /-- The medium failed, with a text of its own. -/
  | medium (text : String)
  deriving DecidableEq, Repr

def StoreError.message : StoreError → String
  | unknownVersion version => s!"Unknown version: {version.text}"
  | unknownProfile reference => s!"Unknown profile: {reference.text}"
  | malformed reference source => s!"Malformed profile {reference}: {source}"
  | medium text => s!"IO error: {text}"

/-- How a computation ends that brings no result: with an error that its caller
can handle, or by a panic that takes down whatever runs it. -/
inductive Fault (ε : Type) where
  | failure (error : ε)
  | panic
  deriving DecidableEq, Repr

def Fault.mapError {ε δ : Type} (change : ε → δ) : Fault ε → Fault δ
  | failure error => failure (change error)
  | panic => panic

/-- What a history or a store answers. Asked the same thing it answers the same. -/
abbrev Answer (β : Type) := Except (Fault StoreError) β

/-- A version graph. It may have cycles and repeated parents, it may fail anywhere and it
may answer for versions that nobody added, but from any one version it leads to finitely
many others only. -/
structure History where
  /-- The direct parents, the most relevant first. -/
  parents : VersionId → Answer (List VersionId)
  isRoot : VersionId → Answer Bool
  /-- Every version lies in a finite region that no step to a parent leaves. -/
  finite : ∀ version, ∃ region : List VersionId, version ∈ region ∧
    ∀ member ∈ region, ∀ found, parents member = .ok found → ∀ parent ∈ found, parent ∈ region

theorem mem_of_lookup {κ β : Type} [BEq κ] [LawfulBEq κ] {entries : List (κ × β)} {key : κ}
    {value : β} (present : entries.lookup key = some value) : (key, value) ∈ entries := by
  obtain ⟨before, after, split, _⟩ := List.lookup_eq_some_iff.mp present
  rw [split]
  exact List.mem_append_right before (List.mem_cons_self ..)

/-- A history held in memory: each version with its parents, in the order in
which the versions were first added. -/
structure VersionGraph where
  parents : List (VersionId × List VersionId)

namespace VersionGraph

def empty : VersionGraph := ⟨[]⟩

def size (graph : VersionGraph) : Nat := graph.parents.length

def parents? (graph : VersionGraph) (version : VersionId) : Option (List VersionId) :=
  graph.parents.lookup version

/-- Adds a version; one that is there already gets the new parents. -/
def add (graph : VersionGraph) (version : VersionId) (parents : List VersionId) : VersionGraph :=
  if (graph.parents? version).isSome then
    ⟨graph.parents.map fun entry => if entry.1 = version then (version, parents) else entry⟩
  else ⟨graph.parents ++ [(version, parents)]⟩

def answer {β : Type} (version : VersionId) : Option β → Answer β
  | some found => .ok found
  | none => .error (.failure (.unknownVersion version))

/-- A version without parents is a root; one that was never added is unknown. -/
def history (graph : VersionGraph) : History where
  parents version := answer version (graph.parents? version)
  isRoot version := answer version ((graph.parents? version).map (·.isEmpty))
  finite version := by
    refine ⟨version :: graph.parents.flatMap (·.2), List.mem_cons_self .., ?_⟩
    intro member _ found answered parent among
    cases present : graph.parents? member with
    | none => rw [present] at answered; cases answered
    | some parents =>
      rw [present] at answered
      obtain rfl : parents = found := Except.ok.inj answered
      exact List.mem_cons_of_mem _ (List.mem_flatMap.mpr ⟨_, mem_of_lookup present, among⟩)

end VersionGraph

end ProfileDrift
