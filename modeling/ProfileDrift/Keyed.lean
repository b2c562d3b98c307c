namespace ProfileDrift

/-- Finitely many values under names, in ascending order of name. Names compare
by code point, which is also the order of their UTF-8 bytes. -/
structure Keyed (β : Type) where
  entries : List (String × β)
  ascending : entries.Pairwise (fun left right => left.1 < right.1)

namespace Keyed

variable {β : Type}

def empty : Keyed β := ⟨[], .nil⟩

instance : Inhabited (Keyed β) := ⟨empty⟩

def isEmpty (map : Keyed β) : Bool := map.entries.isEmpty

def names (map : Keyed β) : List String := map.entries.map (·.1)

def values (map : Keyed β) : List β := map.entries.map (·.2)

def get? (map : Keyed β) (name : String) : Option β := map.entries.lookup name

def contains (map : Keyed β) (name : String) : Bool := (map.get? name).isSome

/-- Puts a value under a name into ascending entries, made from the value that
was there before. -/
def placed (name : String) (change : Option β → β) : List (String × β) → List (String × β)
  | [] => [(name, change none)]
  | (key, value) :: rest =>
    if name = key then (key, change (some value)) :: rest
    else if name < key then (name, change none) :: (key, value) :: rest
    else (key, value) :: placed name change rest

theorem mem_placed {name : String} {change : Option β → β} {entries : List (String × β)}
    {entry : String × β} (member : entry ∈ placed name change entries) :
    entry.1 = name ∨ ∃ value, (entry.1, value) ∈ entries := by
  induction entries with
  | nil => simp only [placed, List.mem_singleton] at member; exact .inl (by rw [member])
  | cons head rest ih =>
    obtain ⟨key, value⟩ := head
    simp only [placed] at member
    split at member
    · rcases List.mem_cons.mp member with here | there
      · exact .inr ⟨value, by rw [here]; exact List.mem_cons_self ..⟩
      · exact .inr ⟨entry.2, List.mem_cons_of_mem _ there⟩
    · split at member
      · rcases List.mem_cons.mp member with here | there
        · exact .inl (by rw [here])
        · exact .inr ⟨entry.2, there⟩
      · rcases List.mem_cons.mp member with here | there
        · exact .inr ⟨value, by rw [here]; exact List.mem_cons_self ..⟩
        · exact (ih there).imp_right fun ⟨old, present⟩ => ⟨old, List.mem_cons_of_mem _ present⟩

theorem placed_ascending {name : String} {change : Option β → β} {entries : List (String × β)}
    (ascending : entries.Pairwise (fun left right => left.1 < right.1)) :
    (placed name change entries).Pairwise (fun left right => left.1 < right.1) := by
  induction entries with
  | nil => exact List.pairwise_singleton _ _
  | cons head rest ih =>
    obtain ⟨key, value⟩ := head
    obtain ⟨above, tail⟩ := List.pairwise_cons.mp ascending
    simp only [placed]
    split
    · exact List.pairwise_cons.mpr ⟨above, tail⟩
    · rename_i different
      split
      · rename_i below
        refine List.pairwise_cons.mpr ⟨fun entry member => ?_, ascending⟩
        rcases List.mem_cons.mp member with here | there
        · rw [here]; exact below
        · exact String.lt_trans below (above entry there)
      · rename_i notBelow
        refine List.pairwise_cons.mpr ⟨fun entry member => ?_, ih tail⟩
        rcases mem_placed member with same | ⟨old, present⟩
        · rw [same]
          rcases String.le_total name key with le | le
          · exact absurd (String.le_antisymm le (String.not_lt.mp notBelow)) different
          · exact Decidable.byContradiction fun notAbove =>
              different (String.le_antisymm (String.not_lt.mp notAbove) le)
        · exact above (entry.1, old) present

/-- Makes the value under a name from the value that is there. -/
def alter (map : Keyed β) (name : String) (change : Option β → β) : Keyed β :=
  ⟨placed name change map.entries, placed_ascending map.ascending⟩

/-- Puts a value under a name in place of any that is there. -/
def insert (map : Keyed β) (name : String) (value : β) : Keyed β :=
  map.alter name fun _ => value

/-- Of entries with one name the last counts. -/
def ofList (entries : List (String × β)) : Keyed β :=
  entries.foldl (fun map (name, value) => map.insert name value) empty

/-- Appends to the list under a name, which begins empty. -/
def append (map : Keyed (List β)) (name : String) (values : List β) : Keyed (List β) :=
  map.alter name fun before => before.getD [] ++ values

/-- Gathers entries by name; those of one name keep their order. -/
def group (entries : List (String × β)) : Keyed (List β) :=
  entries.foldr
    (fun (name, value) map => map.alter name fun later => value :: later.getD []) empty

theorem mapped_ascending {γ : Type} {entries : List (String × β)} (change : String → β → γ)
    (ascending : entries.Pairwise (fun left right => left.1 < right.1)) :
    (entries.map fun (name, value) => (name, change name value)).Pairwise
      (fun left right => left.1 < right.1) :=
  List.pairwise_map.mpr ascending

def map {γ : Type} (map : Keyed β) (change : β → γ) : Keyed γ :=
  ⟨map.entries.map fun (name, value) => (name, change value),
    mapped_ascending (fun _ => change) map.ascending⟩

end Keyed

end ProfileDrift
