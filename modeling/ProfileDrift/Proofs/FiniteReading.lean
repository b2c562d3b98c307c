import ProfileDrift.Profile.Codec
import ProfileDrift.Proofs.DoubleRange
import ProfileDrift.Proofs.Outcome

namespace ProfileDrift

namespace Json

/-- A number as JSON keeps it: a whole number within sixty-four bits, signed or not, or a
finite double. -/
def Number.IsKept : Number → Prop
  | .integer value => -2 ^ 63 ≤ value ∧ value < 2 ^ 64
  | .decimal value => value.isFinite = true

theorem Number.IsKept.isFinite_toFloat {number : Number} (kept : number.IsKept) :
    number.toFloat.isFinite = true := by
  cases number with
  | integer value =>
    obtain ⟨least, less⟩ := kept
    exact Double.isFinite_ofInt (by omega)
  | decimal value => exact kept

end Json

namespace Decode

mutual

/-- A tree as it is read of a JSON text: every number that could be read is kept, and there
are no moments. -/
def Tree.IsJson : Tree → Prop
  | .number (some value) => value.IsKept
  | .moment _ => False
  | .sequence items | .gathered items => items.IsJson
  | .table entries => entries.IsJson
  | _ => True

def Items.IsJson : Items → Prop
  | .more item rest => item.IsJson ∧ rest.IsJson
  | _ => True

def Entries.IsJson : Entries → Prop
  | .more _ value rest => value.IsJson ∧ rest.IsJson
  | _ => True

end

end Decode

namespace Json

open Decode (Tree Items Entries)

variable [NumberReader]

theorem isKept_of_ofLiteral {literal : Decimal.Literal} {isWhole : Bool} {number : Number}
    (kept : Number.ofLiteral literal isWhole = some number) : number.IsKept := by
  have pow64 : Nat.pow 2 64 = 2 ^ 64 := rfl
  have pow63 : Nat.pow 2 63 = 2 ^ 63 := rfl
  unfold Number.ofLiteral at kept
  dsimp only at kept
  split at kept
  · rename_i whole
    cases kept
    simp only [Bool.and_eq_true, decide_eq_true_eq, pow64] at whole
    exact ⟨by omega, by omega⟩
  · split at kept
    · rename_i whole
      cases kept
      simp only [Bool.and_eq_true, decide_eq_true_eq, pow63] at whole
      exact ⟨by omega, by omega⟩
    · split at kept
      · rename_i finite
        cases kept
        exact finite
      · cases kept

theorem isKept_of_number? {chars rest : List Char} {number : Number}
    (read : number? chars = some (some number, rest)) : number.IsKept := by
  unfold number? at read
  simp only [Option.bind_eq_bind, Option.bind_eq_some_iff, Option.pure_def, Option.some.injEq,
    Prod.mk.injEq, Prod.exists] at read
  obtain ⟨_, _, _, _, _, _, _, _, _, kept, _⟩ := read
  exact isKept_of_ofLiteral kept

theorem scalar_isJson (chars : List Char) : (scalar chars).1.IsJson := by
  unfold scalar
  split
  · split <;> trivial
  · split <;> trivial
  · split <;> trivial
  · split <;> trivial
  · split
    · rename_i number rest read
      cases number with
      | none => trivial
      | some number =>
        exact isKept_of_number? read
    · trivial

/-- A number that exceeds every double is not read, so what is read of a text is finite. -/
theorem within_isJson (bound : Nat) (chars : List Char) :
    (treeWithin bound chars).1.IsJson ∧ (itemsWithin bound chars).1.IsJson ∧
      (entriesWithin bound chars).1.IsJson := by
  induction bound generalizing chars with
  | zero => exact ⟨trivial, trivial, trivial⟩
  | succ bound ih =>
    refine ⟨?_, ?_, ?_⟩
    · rw [treeWithin]
      split
      · split
        · trivial
        · exact (ih _).2.1
      · split
        · trivial
        · exact (ih _).2.2
      · exact scalar_isJson _
    · rw [itemsWithin]
      dsimp only
      split
      · exact ⟨(ih _).1, trivial⟩
      · split
        · exact ⟨(ih _).1, trivial⟩
        · exact ⟨(ih _).1, (ih _).2.1⟩
      · exact ⟨(ih _).1, trivial⟩
    · rw [entriesWithin]
      split
      · split
        · trivial
        · split
          · dsimp only
            split
            · exact ⟨(ih _).1, trivial⟩
            · split
              · exact ⟨(ih _).1, trivial⟩
              · exact ⟨(ih _).1, (ih _).2.2⟩
            · exact ⟨(ih _).1, trivial⟩
          · exact ⟨trivial, trivial⟩
      · trivial

theorem tree_isJson (text : String) : (tree text).1.IsJson := by
  unfold tree
  exact (within_isJson _ _).1

/-- Of what is read from a text anything holds that holds of whatever is read from a JSON
tree. -/
theorem holds_of_decodeText {β : Type} {decode : Decode.Decoder β} {P : β → Prop}
    (each : ∀ tree value, tree.IsJson → decode .text tree = .ok value → P value) {text : String}
    {value : β} (read : decodeText decode text = .ok value) : P value := by
  unfold decodeText at read
  dsimp only at read
  split at read
  · rename_i decoded found
    split at read
    · cases read
      exact each _ _ (tree_isJson text) found
    · cases read
  · cases read

end Json

namespace Decode

variable {β ρ : Type} {form : Form} {tree : Tree}

theorem items?_isJson {items : Items} (json : tree.IsJson) (found : items? tree = some items) :
    items.IsJson := by
  unfold items? at found
  split at found
  · cases found
    exact json
  · cases found
    exact json
  · cases found

theorem entries?_isJson {entries : Entries} (json : tree.IsJson)
    (found : entries? tree = some entries) : entries.IsJson := by
  unfold entries? at found
  split at found
  · cases found
    exact json
  · exact json.elim
  · cases found

theorem isFinite_of_number {value : Float} (json : tree.IsJson)
    (read : number form tree = .ok value) : value.isFinite = true := by
  unfold number at read
  split at read
  · cases read
    exact Json.Number.IsKept.isFinite_toFloat json
  · cases read

theorem forall_of_itemsOf {P : β → Prop} {decode : Tree → Except Problem β}
    (each : ∀ tree value, tree.IsJson → decode tree = .ok value → P value) {items : Items}
    {values : List β} (json : items.IsJson) (read : itemsOf decode items = .ok values) :
    ∀ value ∈ values, P value := by
  fun_induction itemsOf decode items generalizing values with
  | case1 =>
    cases read
    exact fun value member => absurd member List.not_mem_nil
  | case2 => cases read
  | case3 item rest first here ih =>
    obtain ⟨others, later, rfl⟩ := map_eq_ok read
    intro value member
    rcases List.mem_cons.mp member with same | inside
    · rw [same]
      exact each item first json.1 here
    · exact ih json.2 later value inside
  | case4 => cases read

theorem forall_of_list {P : β → Prop} {decode : Decoder β}
    (each : ∀ tree value, tree.IsJson → decode form tree = .ok value → P value) {values : List β}
    (json : tree.IsJson) (read : list decode form tree = .ok values) :
    ∀ value ∈ values, P value := by
  unfold list at read
  split at read
  · rename_i items found
    exact forall_of_itemsOf each (items?_isJson json found) read
  · cases read

theorem forall_of_entriesOf {P : β → Prop} {decode : Tree → Except Problem β}
    (each : ∀ tree value, tree.IsJson → decode tree = .ok value → P value) {entries : Entries}
    {values : List (String × β)} (json : entries.IsJson)
    (read : entriesOf decode entries = .ok values) : ∀ entry ∈ values, P entry.2 := by
  fun_induction entriesOf decode entries generalizing values with
  | case1 =>
    cases read
    exact fun entry member => absurd member List.not_mem_nil
  | case2 | case3 | case5 => cases read
  | case4 name tree rest first here ih =>
    obtain ⟨others, later, rfl⟩ := map_eq_ok read
    intro entry member
    rcases List.mem_cons.mp member with same | inside
    · rw [same]
      exact each tree first json.1 here
    · exact ih json.2 later entry inside

theorem forall_of_named {P : β → Prop} {decode : Decoder β}
    (each : ∀ tree value, tree.IsJson → decode form tree = .ok value → P value)
    {values : List (String × β)} (json : tree.IsJson)
    (read : named decode form tree = .ok values) : ∀ entry ∈ values, P entry.2 := by
  unfold named at read
  split at read
  · rename_i entries found
    exact forall_of_entriesOf each (entries?_isJson json found) read
  · cases read

section Records

variable {shape : Shape ρ} {P : ρ → Prop}

theorem Shape.holds_of_ofItems {fields : List (Field ρ)}
    (puts : ∀ field ∈ fields, ∀ tree record next, tree.IsJson → P record →
      field.put form tree record = .ok next → P next)
    {length index : Nat} {start record : ρ} {items : Items} (json : items.IsJson) (holds : P start)
    (read : shape.ofItems form length index fields start items = .ok record) : P record := by
  fun_induction Shape.ofItems shape form length index fields start items with
  | case1 index start rest =>
    obtain ⟨_, _, rfl⟩ := map_eq_ok read
    exact holds
  | case2 index start field fields defaulted ih =>
    exact ih (fun later member => puts later (List.mem_cons_of_mem _ member)) json holds read
  | case3 => cases read
  | case4 => cases read
  | case5 index field fields start item rest next here ih =>
    exact ih (fun later member => puts later (List.mem_cons_of_mem _ member)) json.2
      (puts field (List.mem_cons_self ..) item start next json.1 holds here) read
  | case6 => cases read

theorem Shape.holds_of_ofEntries
    (puts : ∀ field ∈ shape.fields, ∀ tree record next, tree.IsJson → P record →
      field.put form tree record = .ok next → P next)
    {seen : List String} {start record : ρ} {entries : Entries} (json : entries.IsJson)
    (holds : P start) (read : shape.ofEntries form start seen entries = .ok record) : P record := by
  fun_induction Shape.ofEntries shape form start seen entries with
  | case1 start seen =>
    unfold Shape.finished at read
    split at read
    · cases read
    · cases read
      exact holds
  | case2 | case3 | case4 | case6 | case7 | case9 => cases read
  | case5 start seen name value rest field known _ next here ih =>
    have member := List.mem_of_find?_eq_some known
    exact ih json.2 (puts field member value start next json.1 holds here) read
  | case8 start seen name value rest _ _ _ ih => exact ih json.2 holds read

/-- A record keeps what holds of the blank one if every field keeps it that is read from
a JSON tree. -/
theorem Shape.holds_of_decode (blank : P shape.blank)
    (puts : ∀ field ∈ shape.fields, ∀ tree record next, tree.IsJson → P record →
      field.put form tree record = .ok next → P next)
    {record : ρ} (json : tree.IsJson) (read : shape.decode form tree = .ok record) : P record := by
  unfold Shape.decode at read
  split at read
  · rename_i items entries found
    exact Shape.holds_of_ofItems puts (items?_isJson json found) blank read
  · rename_i entries _ found
    exact Shape.holds_of_ofEntries puts (entries?_isJson json found) blank read
  · cases read

end Records

end Decode

end ProfileDrift
