import ProfileDrift.Keyed

namespace ProfileDrift.Keyed

variable {β γ : Type}

theorem lookup_cons_eq_if {κ : Type} [DecidableEq κ] (key name : κ) (value : β)
    (rest : List (κ × β)) :
    ((key, value) :: rest).lookup name = if name = key then some value else rest.lookup name := by
  rw [List.lookup_cons]
  by_cases same : name = key
  · rw [if_pos same, beq_iff_eq.mpr same]
  · rw [if_neg same, beq_eq_false_iff_ne.mpr same]

theorem lookup_eq_none_of_below {name : String} {entries : List (String × β)}
    (above : ∀ entry ∈ entries, name < entry.1) : entries.lookup name = none := by
  refine List.lookup_eq_none_iff.mpr fun entry member => ?_
  have different : name ≠ entry.1 := fun same =>
    String.lt_irrefl name (same ▸ above entry member)
  simpa using different

theorem lookup_of_mem {entries : List (String × β)} {name : String} {value : β}
    (ascending : entries.Pairwise (fun left right => left.1 < right.1))
    (member : (name, value) ∈ entries) : entries.lookup name = some value := by
  induction entries with
  | nil => exact absurd member List.not_mem_nil
  | cons head rest ih =>
    obtain ⟨key, other⟩ := head
    obtain ⟨above, tail⟩ := List.pairwise_cons.mp ascending
    rw [lookup_cons_eq_if]
    rcases List.mem_cons.mp member with here | there
    · obtain ⟨rfl, rfl⟩ := Prod.mk.inj here
      exact if_pos rfl
    · have different : name ≠ key := fun same =>
        String.lt_irrefl key (same ▸ above _ there)
      rw [if_neg different, ih tail there]

/-- Placing a value changes what stands under its name and nothing else. -/
theorem lookup_placed {name : String} {change : Option β → β} {entries : List (String × β)}
    (ascending : entries.Pairwise (fun left right => left.1 < right.1)) (other : String) :
    (placed name change entries).lookup other =
      if other = name then some (change (entries.lookup name)) else entries.lookup other := by
  induction entries with
  | nil => exact lookup_cons_eq_if name other (change none) []
  | cons head rest ih =>
    obtain ⟨key, value⟩ := head
    obtain ⟨above, tail⟩ := List.pairwise_cons.mp ascending
    unfold placed
    by_cases same : name = key
    · subst same
      rw [if_pos rfl, lookup_cons_eq_if, lookup_cons_eq_if, lookup_cons_eq_if, if_pos rfl]
      by_cases here : other = name
      · rw [if_pos here, if_pos here]
      · rw [if_neg here, if_neg here, if_neg here]
    · rw [if_neg same]
      by_cases below : name < key
      · have absent : ((key, value) :: rest).lookup name = none := by
          refine lookup_eq_none_of_below fun entry member => ?_
          rcases List.mem_cons.mp member with here | there
          · rw [here]
            exact below
          · exact String.lt_trans below (above entry there)
        rw [if_pos below, absent, lookup_cons_eq_if name]
      · rw [if_neg below, lookup_cons_eq_if, lookup_cons_eq_if, lookup_cons_eq_if, if_neg same,
          ih tail]
        by_cases here : other = key
        · rw [if_pos here, if_neg (fun atName => same (atName.symm.trans here)), if_pos here]
        · rw [if_neg here, if_neg here]

theorem get?_alter (map : Keyed β) (name : String) (change : Option β → β) (other : String) :
    (map.alter name change).get? other =
      if other = name then some (change (map.get? name)) else map.get? other :=
  lookup_placed map.ascending other

theorem get?_of_mem {map : Keyed β} {name : String} {value : β}
    (member : (name, value) ∈ map.entries) : map.get? name = some value :=
  lookup_of_mem map.ascending member

theorem mem_of_get? {map : Keyed β} {name : String} {value : β} (found : map.get? name = some value) :
    (name, value) ∈ map.entries := by
  obtain ⟨before, after, split, _⟩ := List.lookup_eq_some_iff.mp found
  rw [split]
  exact List.mem_append_right before (List.mem_cons_self ..)

theorem contains_iff {map : Keyed β} {name : String} :
    map.contains name = true ↔ name ∈ map.names := by
  constructor
  · intro held
    obtain ⟨value, present⟩ := Option.isSome_iff_exists.mp held
    exact List.mem_map.mpr ⟨(name, value), mem_of_get? present, rfl⟩
  · intro listed
    obtain ⟨entry, member, rfl⟩ := List.mem_map.mp listed
    exact Option.isSome_iff_exists.mpr ⟨entry.2, get?_of_mem member⟩

theorem get?_map (map : Keyed β) (change : β → γ) (name : String) :
    (map.map change).get? name = (map.get? name).map change := by
  change (map.entries.map fun entry => (entry.1, change entry.2)).lookup name =
    (map.entries.lookup name).map change
  induction map.entries with
  | nil => rfl
  | cons head rest ih =>
    obtain ⟨key, value⟩ := head
    rw [List.map_cons, lookup_cons_eq_if, lookup_cons_eq_if, ih]
    by_cases here : name = key
    · rw [if_pos here, if_pos here]
      rfl
    · rw [if_neg here, if_neg here]

/-- The values under a name in the order of the entries. -/
def under (name : String) (entries : List (String × β)) : List β :=
  (entries.filter (·.1 = name)).map (·.2)

/-- A group holds the values under its name in their order, and there is no group
without values. -/
theorem get?_group (entries : List (String × β)) (name : String) :
    (group entries).get? name =
      if under name entries = [] then none else some (under name entries) := by
  induction entries with
  | nil => rfl
  | cons head rest ih =>
    obtain ⟨key, value⟩ := head
    have step : group ((key, value) :: rest) =
        (group rest).alter key fun later => value :: later.getD [] := rfl
    rw [step, get?_alter]
    by_cases here : name = key
    · subst here
      have found : under name ((name, value) :: rest) = value :: under name rest := by
        simp [under]
      rw [if_pos rfl, ih, found, if_neg (List.cons_ne_nil value _)]
      split
      · rename_i none
        rw [none]
        rfl
      · rfl
    · have skipped : under name ((key, value) :: rest) = under name rest := by
        simp [under, Ne.symm here]
      rw [if_neg here, ih, skipped]

theorem under_append (name : String) (front back : List (String × β)) :
    under name (front ++ back) = under name front ++ under name back := by
  rw [under, List.filter_append, List.map_append, ← under, ← under]

theorem under_labelled (name key : String) (values : List β) :
    under name (values.map (key, ·)) = if name = key then values else [] := by
  by_cases here : name = key
  · simp [under, here, List.filter_map, Function.comp_def]
  · simp [under, here, Ne.symm here, List.filter_map, Function.comp_def]

theorem under_flatMap_labelled {entries : List (String × List β)}
    (ascending : entries.Pairwise (fun left right => left.1 < right.1)) (name : String) :
    under name (entries.flatMap fun (key, values) => values.map (key, ·)) =
      (entries.lookup name).getD [] := by
  induction entries with
  | nil => rfl
  | cons head rest ih =>
    obtain ⟨key, values⟩ := head
    obtain ⟨above, tail⟩ := List.pairwise_cons.mp ascending
    rw [List.flatMap_cons, under_append, under_labelled, ih tail, lookup_cons_eq_if]
    by_cases here : name = key
    · have absent : rest.lookup name = none := lookup_eq_none_of_below (here ▸ above)
      rw [if_pos here, if_pos here, absent]
      exact List.append_nil values
    · rw [if_neg here, if_neg here, List.nil_append]

/-- Groups that are written out one after the other are found again under their
names. -/
theorem under_flatMap_entries (map : Keyed (List β)) (name : String) :
    under name (map.entries.flatMap fun (key, values) => values.map (key, ·)) =
      (map.get? name).getD [] :=
  under_flatMap_labelled map.ascending name

/-- The same when each value is changed as it is written out. -/
theorem under_flatMap_mapped (map : Keyed (List β)) (change : β → γ) (name : String) :
    under name (map.entries.flatMap fun (key, values) =>
      values.map fun value => (key, change value)) = ((map.get? name).getD []).map change := by
  have listed := under_flatMap_entries (map.map (List.map change)) name
  rw [get?_map, Keyed.map, List.flatMap_map] at listed
  simp only [List.map_map] at listed
  refine listed.trans ?_
  cases map.get? name <;> rfl

/-- No name below the first one stands in ascending entries. -/
theorem not_lt_of_lookup {first name : String} {value found : β} {rest : List (String × β)}
    (ascending : ((first, value) :: rest).Pairwise (fun left right => left.1 < right.1))
    (present : ((first, value) :: rest).lookup name = some found) : ¬ name < first := by
  intro below
  have absent : ((first, value) :: rest).lookup name = none := by
    refine lookup_eq_none_of_below fun entry member => ?_
    rcases List.mem_cons.mp member with here | there
    · rw [here]
      exact below
    · exact String.lt_trans below ((List.pairwise_cons.mp ascending).1 entry there)
  rw [absent] at present
  cases present

theorem eq_of_lookup_eq {entries others : List (String × β)}
    (ascending : entries.Pairwise (fun left right => left.1 < right.1))
    (ascending' : others.Pairwise (fun left right => left.1 < right.1))
    (same : ∀ name, entries.lookup name = others.lookup name) : entries = others := by
  have first {key : String} {value : β} (rest : List (String × β)) :
      ((key, value) :: rest).lookup key = some value := by
    rw [lookup_cons_eq_if, if_pos rfl]
  induction entries generalizing others with
  | nil =>
    rcases others with _ | ⟨⟨key, value⟩, others⟩
    · rfl
    · cases (same key).trans (first others)
  | cons entry entries ih =>
    obtain ⟨key, value⟩ := entry
    rcases others with _ | ⟨⟨other, another⟩, others⟩
    · cases (same key).symm.trans (first entries)
    · have names : key = other := String.le_antisymm
        (String.not_lt.mp (not_lt_of_lookup ascending ((same other).trans (first others))))
        (String.not_lt.mp (not_lt_of_lookup ascending' ((same key).symm.trans (first entries))))
      subst names
      have values : value = another :=
        Option.some.inj ((first entries).symm.trans ((same key).trans (first others)))
      subst values
      obtain ⟨above, tail⟩ := List.pairwise_cons.mp ascending
      obtain ⟨above', tail'⟩ := List.pairwise_cons.mp ascending'
      rw [ih tail tail' fun name => ?_]
      have found := same name
      rw [lookup_cons_eq_if, lookup_cons_eq_if] at found
      by_cases here : name = key
      · subst here
        rw [lookup_eq_none_of_below above, lookup_eq_none_of_below above']
      · rwa [if_neg here, if_neg here] at found

/-- A map is known by what it holds under each name. -/
theorem ext_get? {map other : Keyed β} (same : ∀ name, map.get? name = other.get? name) :
    map = other := by
  obtain ⟨entries, ascending⟩ := map
  obtain ⟨others, ascending'⟩ := other
  obtain rfl := eq_of_lookup_eq ascending ascending' same
  rfl

theorem get?_foldl_insert (entries : List (String × β)) (map : Keyed β) (name : String) :
    (entries.foldl (fun map (name, value) => map.insert name value) map).get? name =
      (entries.reverse.lookup name).or (map.get? name) := by
  induction entries generalizing map with
  | nil => rfl
  | cons entry entries ih =>
    obtain ⟨key, value⟩ := entry
    have inserted : (map.insert key value).get? name =
        if name = key then some value else map.get? name := get?_alter map key _ name
    rw [List.foldl_cons, ih, inserted, List.reverse_cons, List.lookup_append, lookup_cons_eq_if,
      Option.or_assoc]
    by_cases here : name = key
    · rw [if_pos here, if_pos here]
      rfl
    · rw [if_neg here, if_neg here]
      rfl

/-- Under each name stands the last value that the list gives it. -/
theorem get?_ofList (entries : List (String × β)) (name : String) :
    (ofList entries).get? name = entries.reverse.lookup name := by
  rw [ofList, get?_foldl_insert]
  exact Option.or_none

theorem mem_of_mem_ofList {entries : List (String × β)} {entry : String × β}
    (member : entry ∈ (ofList entries).entries) : entry ∈ entries := by
  have found := get?_of_mem member
  rw [get?_ofList] at found
  obtain ⟨before, after, split, _⟩ := List.lookup_eq_some_iff.mp found
  refine List.mem_reverse.mp ?_
  rw [split]
  exact List.mem_append_right before (List.mem_cons_self ..)

theorem lookup_reverse {entries : List (String × β)}
    (ascending : entries.Pairwise (fun left right => left.1 < right.1)) (name : String) :
    entries.reverse.lookup name = entries.lookup name := by
  induction entries with
  | nil => rfl
  | cons entry entries ih =>
    obtain ⟨key, value⟩ := entry
    obtain ⟨above, tail⟩ := List.pairwise_cons.mp ascending
    rw [List.reverse_cons, List.lookup_append, ih tail, lookup_cons_eq_if, lookup_cons_eq_if]
    by_cases here : name = key
    · rw [here, if_pos rfl, lookup_eq_none_of_below above, if_pos rfl]
      rfl
    · rw [if_neg here, if_neg here]
      exact Option.or_none

/-- Nothing changes when the entries of a map are put into a map again. -/
theorem ofList_entries (map : Keyed β) : ofList map.entries = map :=
  ext_get? fun name => (get?_ofList map.entries name).trans (lookup_reverse map.ascending name)

end ProfileDrift.Keyed
