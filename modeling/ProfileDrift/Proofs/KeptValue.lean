import ProfileDrift.Proofs.FiniteReading
import ProfileDrift.Proofs.KeyedGroups
import ProfileDrift.Proofs.ValueText

namespace ProfileDrift

open Json (Value)

namespace Decode

variable {β ρ : Type} {shown : β → Value}

theorem itemsOf_ofValues {ι : Type} {decode : Tree → Except Problem β} {shown : ι → Value}
    {told : ι → β} {items : List ι}
    (each : ∀ item ∈ items, decode (ofValue (shown item)) = .ok (told item)) :
    itemsOf decode (ofValues (items.map shown)) = .ok (items.map told) := by
  induction items with
  | nil => rfl
  | cons item items ih =>
    rw [List.map_cons, ofValues, itemsOf, each item (List.mem_cons_self ..),
      ih fun later member => each later (List.mem_cons_of_mem _ member)]
    rfl

/-- A list is read back if each of its elements is. -/
theorem list_ofValue {decode : Decoder β} {form : Form} {values : List β}
    (each : ∀ value ∈ values, decode form (ofValue (shown value)) = .ok value) :
    list decode form (ofValue (.array (values.map shown))) = .ok values := by
  have read : list decode form (ofValue (.array (values.map shown))) = .ok (values.map id) :=
    itemsOf_ofValues each
  rwa [List.map_id] at read

theorem entriesOf_ofMembers {decode : Tree → Except Problem β} {entries : List (String × β)}
    (each : ∀ entry ∈ entries, decode (ofValue (shown entry.2)) = .ok entry.2) :
    entriesOf decode (ofMembers (entries.map fun entry => (entry.1, shown entry.2))) =
      .ok entries := by
  induction entries with
  | nil => rfl
  | cons entry entries ih =>
    rw [List.map_cons, ofMembers, entriesOf, each entry (List.mem_cons_self ..),
      ih fun later member => each later (List.mem_cons_of_mem _ member)]
    rfl

theorem entriesOf_values {decode : Tree → Except Problem Value} {members : List (String × Value)}
    (each : ∀ member ∈ members, decode (ofValue member.2) = .ok member.2) :
    entriesOf decode (ofMembers members) = .ok members := by
  have mapped : entriesOf decode (ofMembers (members.map fun member => (member.1, id member.2))) =
      .ok members := entriesOf_ofMembers each
  have same : members.map (fun member => (member.1, id member.2)) = members := List.map_id members
  rwa [same] at mapped

theorem named_ofValue {decode : Decoder β} {form : Form} {entries : List (String × β)}
    (each : ∀ entry ∈ entries, decode form (ofValue (shown entry.2)) = .ok entry.2) :
    named decode form (ofValue (.object (entries.map fun entry => (entry.1, shown entry.2)))) =
      .ok entries :=
  entriesOf_ofMembers each

theorem Field.put_of {decode : Decoder β} {form : Form} {tree : Tree} {value : β} (name : String)
    (presence : Presence) (set : ρ → β → ρ) (record : ρ) (read : decode form tree = .ok value) :
    (Field.of name presence decode set).put form tree record = .ok (set record value) := by
  change (decode form tree).map (set record) = _
  rw [read]
  rfl

theorem Shape.decode_object {shape : Shape ρ} {form : Form} {members : List (String × Value)}
    {record : ρ} (filled : shape.ofEntries form shape.blank [] (ofMembers members) = .ok record) :
    shape.decode form (ofValue (.object members)) = .ok record := filled

/-- An entry that a record knows and has not met is put into it before the others are met. -/
theorem Shape.ofEntries_more {shape : Shape ρ} {form : Form} {field : Field ρ} {name : String}
    {tree : Tree} {others : Entries} {record : ρ} {seen : List String}
    (known : shape.fields.find? (·.answersTo name) = some field)
    (fresh : seen.contains field.name = false) :
    shape.ofEntries form record seen (.more (some name) tree others) =
      field.put form tree record >>=
        fun next => shape.ofEntries form next (field.name :: seen) others := by
  rw [ofEntries]
  simp only [known, fresh, Bool.false_eq_true, if_false]
  cases field.put form tree record <;> rfl

/-- A well-written entry that a tolerant record does not know is passed over. -/
theorem Shape.ofEntries_unknown {shape : Shape ρ} {form : Form} {name : String} {tree : Tree}
    {others : Entries} {record : ρ} {seen : List String} (tolerant : shape.strict = false)
    (unknown : shape.fields.find? (·.answersTo name) = none) (written : skip tree = .ok ()) :
    shape.ofEntries form record seen (.more (some name) tree others) =
      shape.ofEntries form record seen others := by
  rw [ofEntries]
  simp only [unknown, tolerant, written, Bool.false_eq_true, if_false]

/-- What is put into a record is there when the others follow. -/
theorem Shape.ofEntries_member {shape : Shape ρ} {form : Form} {field : Field ρ} {name : String}
    {tree : Tree} {others : Entries} {record next : ρ} {last : Except Problem ρ}
    {seen : List String}
    (known : shape.fields.find? (·.answersTo name) = some field)
    (fresh : seen.contains field.name = false)
    (put : field.put form tree record = .ok next)
    (rest : shape.ofEntries form next (field.name :: seen) others = last) :
    shape.ofEntries form record seen (.more (some name) tree others) = last := by
  rw [ofEntries_more known fresh, put]
  exact rest

end Decode

namespace Json

open Decode (Tree Items Entries itemsOf entriesOf ofValue ofValues ofMembers)

theorem keepItems_eq (room : Option Nat) (items : Items) :
    keepItems room items = itemsOf (keep room) items := by
  fun_induction itemsOf (keep room) items with
  | case1 => rfl
  | case2 => rfl
  | case3 item rest value here ih => rw [keepItems, here, ih]
  | case4 item rest problem here => rw [keepItems, here]

theorem keepEntries_eq (room : Option Nat) (entries : Entries) :
    keepEntries room entries = entriesOf (keep room) entries := by
  fun_induction entriesOf (keep room) entries with
  | case1 => rfl
  | case2 => rfl
  | case3 => rfl
  | case4 name tree rest value here ih => rw [keepEntries, here, ih]
  | case5 name tree rest problem here => rw [keepEntries, here]

theorem narrower?_eq_some {room : Nat} {inner : Option Nat}
    (found : narrower? (some room) = some inner) : ∃ less, room = less + 1 ∧ inner = some less := by
  cases room with
  | zero => cases found
  | succ less => exact ⟨less, rfl, (Option.some.inj found).symm⟩

namespace Value

/-- The compact text tells all of the value. -/
structure IsTold (value : Value) : Prop where
  bounded : value.Bounded
  plain : value.plain = value

theorem isTold_text (value : String) : (text value).IsTold := ⟨trivial, rfl⟩

theorem isTold_number {value : Number} (kept : value.IsKept) : (number value).IsTold := by
  cases value with
  | integer value => exact ⟨kept, rfl⟩
  | decimal value => exact ⟨trivial, if_pos kept⟩

theorem isTold_quantity {value : Float} (finite : value.isFinite = true) :
    (quantity value).IsTold := by
  have kept : (Number.decimal value).IsKept := finite
  exact isTold_number kept

theorem isTold_array {items : List Value} (each : ∀ item ∈ items, item.IsTold) :
    (array items).IsTold := by
  have told : AllBounded items ∧ plains items = items := by
    induction items with
    | nil => exact ⟨trivial, rfl⟩
    | cons item items ih =>
      obtain ⟨bounded, plain⟩ := each item (List.mem_cons_self ..)
      obtain ⟨others, same⟩ := ih fun later member => each later (List.mem_cons_of_mem _ member)
      exact ⟨⟨bounded, others⟩, by rw [plains, plain, same]⟩
  exact ⟨told.1, by rw [plain, told.2]⟩

theorem isTold_object {members : List (String × Value)}
    (each : ∀ member ∈ members, member.2.IsTold) : (object members).IsTold := by
  have told : MembersBounded members ∧ plainMembers members = members := by
    induction members with
    | nil => exact ⟨trivial, rfl⟩
    | cons member members ih =>
      obtain ⟨bounded, plain⟩ := each member (List.mem_cons_self ..)
      obtain ⟨others, same⟩ := ih fun later inside => each later (List.mem_cons_of_mem _ inside)
      exact ⟨⟨bounded, others⟩, by rw [plainMembers, plain, same]⟩
  exact ⟨told.1, by rw [plain, told.2]⟩

theorem decodeText_of_tree [NumberReader] {β : Type} {text : String} {found : Tree}
    (read : tree text = (found, true)) (decode : Decode.Decoder β) :
    decodeText decode text = decode .text found := by
  unfold decodeText
  rw [read]
  dsimp only
  cases decode .text found <;> rfl

mutual

/-- What was printed can be passed over. -/
theorem skip_reread [NumberReader] : ∀ value : Value, Decode.skip value.reread = .ok ()
  | null | boolean _ | number (.integer _) | text _ => rfl
  | number (.decimal value) => by
    rw [reread]
    split
    · rfl
    · rfl
  | array items => skipItems_rereads items
  | object members => skipEntries_rereadMembers members

theorem skipItems_rereads [NumberReader] :
    ∀ items : List Value, Decode.skipItems (rereads items) = .ok ()
  | [] => rfl
  | item :: items => by
    rw [rereads, Decode.skipItems, skip_reread item]
    exact skipItems_rereads items

theorem skipEntries_rereadMembers [NumberReader] :
    ∀ members : List (String × Value), Decode.skipEntries (rereadMembers members) = .ok ()
  | [] => rfl
  | (name, value) :: members => by
    rw [rereadMembers, Decode.skipEntries, skip_reread value]
    exact skipEntries_rereadMembers members

end

theorem IsTold.reread_eq [NumberReader] [LawfulNumberReader] {value : Value}
    (told : value.IsTold) : value.reread = ofValue value := by
  rw [Value.reread_eq value told.bounded, told.plain]

/-- Whoever reads the compact text meets the value itself. -/
theorem IsTold.decodeText_compact [NumberReader] [LawfulNumberReader] {β : Type} {value : Value}
    (told : value.IsTold) (decode : Decode.Decoder β) :
    decodeText decode value.compact = decode .text (ofValue value) := by
  rw [decodeText_of_tree (tree_compact value), told.reread_eq]

/-- Whoever reads the pretty text meets the value itself, whatever blanks follow it. -/
theorem IsTold.decodeText_pretty [NumberReader] [LawfulNumberReader] {β : Type} {value : Value}
    (told : value.IsTold) {blanks : List Char} (blank : AllBlank blanks)
    (decode : Decode.Decoder β) :
    decodeText decode (value.pretty ++ String.ofList blanks) = decode .text (ofValue value) := by
  rw [decodeText_of_tree (tree_pretty value blank), told.reread_eq]

mutual

/-- How deep arrays and objects are nested in a value. -/
def depth : Value → Nat
  | array items => itemsDepth items + 1
  | object members => membersDepth members + 1
  | _ => 0

def itemsDepth : List Value → Nat
  | [] => 0
  | item :: items => max item.depth (itemsDepth items)

def membersDepth : List (String × Value) → Nat
  | [] => 0
  | (_, value) :: members => max value.depth (membersDepth members)

end

theorem itemsDepth_le_iff {items : List Value} {room : Nat} :
    itemsDepth items ≤ room ↔ ∀ item ∈ items, item.depth ≤ room := by
  induction items with
  | nil => exact ⟨fun _ item member => absurd member List.not_mem_nil, fun _ => Nat.zero_le room⟩
  | cons item items ih => rw [itemsDepth, Nat.max_le, ih, List.forall_mem_cons]

theorem membersDepth_le_iff {members : List (String × Value)} {room : Nat} :
    membersDepth members ≤ room ↔ ∀ member ∈ members, member.2.depth ≤ room := by
  induction members with
  | nil => exact ⟨fun _ member inside => absurd inside List.not_mem_nil, fun _ => Nat.zero_le room⟩
  | cons member members ih => rw [membersDepth, Nat.max_le, ih, List.forall_mem_cons]

/-- A value as it is kept when it is read: its numbers are kept as numbers, and each name
stands in an object once, in the order of the names. Parameters are always of this kind,
since there is no other way to come by a value. -/
inductive IsKept : Value → Prop
  | null : IsKept null
  | boolean (value : Bool) : IsKept (boolean value)
  | number {value : Number} (kept : value.IsKept) : IsKept (number value)
  | text (value : String) : IsKept (text value)
  | array {items : List Value} (each : ∀ item ∈ items, IsKept item) : IsKept (array items)
  | object {members : List (String × Value)}
      (ascending : members.Pairwise fun left right => left.1 < right.1)
      (each : ∀ member ∈ members, IsKept member.2) : IsKept (object members)

theorem IsKept.isTold {value : Value} (kept : value.IsKept) : value.IsTold := by
  induction kept with
  | null => exact ⟨trivial, rfl⟩
  | boolean value => exact ⟨trivial, rfl⟩
  | number kept => exact isTold_number kept
  | text value => exact isTold_text value
  | array _ ih => exact isTold_array ih
  | object _ _ ih => exact isTold_object ih

/-- A kept value is kept again wherever there is room for its nesting. -/
theorem IsKept.keep_ofValue {value : Value} (kept : value.IsKept) {room : Nat}
    (shallow : value.depth ≤ room) : keep (some room) (ofValue value) = .ok value := by
  induction kept generalizing room with
  | null => rfl
  | boolean value => rfl
  | number kept => rfl
  | text value => rfl
  | @array items each ih =>
    obtain ⟨less, rfl⟩ : ∃ less, room = less + 1 := ⟨room - 1, by rw [depth] at shallow; omega⟩
    rw [depth, Nat.add_le_add_iff_right, itemsDepth_le_iff] at shallow
    have read : keepItems (some less) (ofValues items) = .ok items := by
      have mapped : itemsOf (Json.keep (some less)) (ofValues (items.map id)) =
          .ok (items.map id) :=
        Decode.itemsOf_ofValues fun item member => ih item member (shallow item member)
      rwa [List.map_id, ← keepItems_eq] at mapped
    rw [ofValue, keep]
    simp only [narrower?, read]
    rfl
  | @object members ascending each ih =>
    obtain ⟨less, rfl⟩ : ∃ less, room = less + 1 := ⟨room - 1, by rw [depth] at shallow; omega⟩
    rw [depth, Nat.add_le_add_iff_right, membersDepth_le_iff] at shallow
    have read : keepEntries (some less) (ofMembers members) = .ok members := by
      rw [keepEntries_eq]
      exact Decode.entriesOf_values fun member inside => ih member inside (shallow member inside)
    rw [ofValue, keep]
    simp only [narrower?, read]
    exact congrArg (fun map => Except.ok (Value.object map.entries))
      (Keyed.ofList_entries ⟨members, ascending⟩)

end Value

/-- Whatever is kept of a JSON text finds room for its nesting. The induction is on the
room, since a container leaves less of it to what it holds. -/
theorem isKept_of_keep {room : Nat} {tree : Tree} {value : Value} (json : tree.IsJson)
    (read : keep (some room) tree = .ok value) : value.IsKept ∧ value.depth ≤ room := by
  induction room using Nat.strong_induction_on generalizing tree value with
  | _ room ih =>
    cases tree with
    | null =>
      cases read
      exact ⟨.null, Nat.zero_le room⟩
    | boolean value =>
      cases read
      exact ⟨.boolean value, Nat.zero_le room⟩
    | number value =>
      cases value with
      | none => cases read
      | some value =>
        cases read
        exact ⟨.number json, Nat.zero_le room⟩
    | text value =>
      cases value with
      | none => cases read
      | some value =>
        cases read
        exact ⟨.text value, Nat.zero_le room⟩
    | moment value => exact json.elim
    | unreadable => cases read
    | sequence items | gathered items =>
      rw [keep] at read
      split at read
      · cases read
      · rename_i inner found
        obtain ⟨less, rfl, rfl⟩ := narrower?_eq_some found
        obtain ⟨kept, inside, rfl⟩ := map_eq_ok read
        rw [keepItems_eq] at inside
        have each := Decode.forall_of_itemsOf (fun _ _ => ih less (Nat.lt_succ_self less)) json inside
        exact ⟨.array fun item member => (each item member).1, Nat.succ_le_succ
          (Value.itemsDepth_le_iff.mpr fun item member => (each item member).2)⟩
    | table entries =>
      rw [keep] at read
      split at read
      · cases read
      · rename_i inner found
        obtain ⟨less, rfl, rfl⟩ := narrower?_eq_some found
        obtain ⟨kept, inside, rfl⟩ := map_eq_ok read
        rw [keepEntries_eq] at inside
        have each := Decode.forall_of_entriesOf (fun _ _ => ih less (Nat.lt_succ_self less)) json inside
        have held (member) (present : member ∈ (Keyed.ofList kept).entries) :=
          each member (Keyed.mem_of_mem_ofList present)
        exact ⟨.object (Keyed.ofList kept).ascending fun member present => (held member present).1,
          Nat.succ_le_succ
            (Value.membersDepth_le_iff.mpr fun member present => (held member present).2)⟩

end Json

end ProfileDrift
