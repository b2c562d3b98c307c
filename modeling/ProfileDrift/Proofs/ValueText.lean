import ProfileDrift.Proofs.ScalarText

namespace ProfileDrift.Json

open Decode (Tree Items Entries ofValue ofValues ofMembers)

/-- A text between two marks that says nothing. -/
def AllBlank (chars : List Char) : Prop := ∀ char ∈ chars, isBlank char = true

theorem AllBlank.nil : AllBlank [] := fun _ member => absurd member List.not_mem_nil

theorem AllBlank.replicate (count : ℕ) : AllBlank (List.replicate count ' ') := by
  intro char member
  rw [List.eq_of_mem_replicate member]
  rfl

theorem AllBlank.dropBlanks_append {blanks : List Char} (blank : AllBlank blanks)
    (rest : List Char) : dropBlanks (blanks ++ rest) = dropBlanks rest := by
  induction blanks with
  | nil => rfl
  | cons char blanks ih =>
    have here := blank char (List.mem_cons_self ..)
    rw [List.cons_append, dropBlanks, if_pos here]
    exact ih fun later member => blank later (List.mem_cons_of_mem _ member)

/-- No number goes on with blanks. -/
theorem AllBlank.apart {blanks rest : List Char} (blank : AllBlank blanks) (apart : Apart rest) :
    Apart (blanks ++ rest) := by
  cases blanks with
  | nil => exact apart
  | cons char blanks =>
    have here := blank char (List.mem_cons_self ..)
    simp only [isBlank, Bool.or_eq_true, decide_eq_true_eq] at here
    refine apart_cons _ ?_
    rcases here with ((rfl | rfl) | rfl) | rfl <;> decide

/-- Where a printer puts blanks: before every item and member and before the bracket that
closes them, by the depth of nesting, and behind every colon. -/
structure Layout where
  line : ℕ → List Char
  space : List Char
  blankLine : ∀ depth, AllBlank (line depth)
  blankSpace : AllBlank space

namespace Layout

/-- No blanks at all. -/
def tight : Layout := ⟨fun _ => [], [], fun _ => .nil, .nil⟩

/-- Every item and member on a line of its own. -/
def indented : Layout where
  line := Value.lineAt
  space := [' ']
  blankLine depth := by
    intro char member
    rcases List.mem_cons.mp member with rfl | inside
    · rfl
    · exact AllBlank.replicate _ char inside
  blankSpace := AllBlank.replicate 1

end Layout

namespace Value

mutual

/-- The text of a value in a layout. -/
def laid (layout : Layout) (depth : ℕ) : Value → List Char
  | array [] => ['[', ']']
  | array (item :: items) =>
    '[' :: (layout.line (depth + 1) ++ laid layout (depth + 1) item ++
      laidItems layout depth items)
  | object [] => ['\x7b', '\x7d']
  | object ((name, value) :: members) =>
    '\x7b' :: (layout.line (depth + 1) ++ quoted name ++ ':' :: (layout.space ++
      (laid layout (depth + 1) value ++ laidMembers layout depth members)))
  | value => value.chars

/-- The rest of an array after its first item. -/
def laidItems (layout : Layout) (depth : ℕ) : List Value → List Char
  | [] => layout.line depth ++ [']']
  | item :: items =>
    ',' :: (layout.line (depth + 1) ++ laid layout (depth + 1) item ++
      laidItems layout depth items)

/-- The rest of an object after its first member. -/
def laidMembers (layout : Layout) (depth : ℕ) : List (String × Value) → List Char
  | [] => layout.line depth ++ ['\x7d']
  | (name, value) :: members =>
    ',' :: (layout.line (depth + 1) ++ quoted name ++ ':' :: (layout.space ++
      (laid layout (depth + 1) value ++ laidMembers layout depth members)))

end

mutual

theorem laid_tight : ∀ (value : Value) (depth : ℕ), laid .tight depth value = value.chars
  | null, _ | boolean _, _ | number _, _ | text _, _ | array [], _ | object [], _ => by
    simp only [laid, chars]
  | array (item :: items), depth => by
    rw [laid, chars, laid_tight item, laidItems_tight items]
    rfl
  | object ((name, value) :: members), depth => by
    rw [laid, chars, laid_tight value, laidMembers_tight members]
    rfl

theorem laidItems_tight :
    ∀ (items : List Value) (depth : ℕ), laidItems .tight depth items = itemsChars items
  | [], _ => rfl
  | item :: items, depth => by
    rw [laidItems, itemsChars, laid_tight item, laidItems_tight items]
    rfl

theorem laidMembers_tight : ∀ (members : List (String × Value)) (depth : ℕ),
    laidMembers .tight depth members = membersChars members
  | [], _ => rfl
  | (name, value) :: members, depth => by
    rw [laidMembers, membersChars, laid_tight value, laidMembers_tight members]
    rfl

end

mutual

theorem laid_indented :
    ∀ (value : Value) (depth : ℕ), laid .indented depth value = value.prettyChars depth
  | null, _ | boolean _, _ | number _, _ | text _, _ | array [], _ | object [], _ => by
    simp only [laid, chars, prettyChars]
  | array (item :: items), depth => by
    rw [laid, prettyChars, laid_indented item, laidItems_indented items]
    rfl
  | object ((name, value) :: members), depth => by
    rw [laid, prettyChars, laid_indented value, laidMembers_indented members]
    rfl

theorem laidItems_indented : ∀ (items : List Value) (depth : ℕ),
    laidItems .indented depth items = itemsPretty depth items
  | [], _ => rfl
  | item :: items, depth => by
    rw [laidItems, itemsPretty, laid_indented item, laidItems_indented items]
    rfl

theorem laidMembers_indented : ∀ (members : List (String × Value)) (depth : ℕ),
    laidMembers .indented depth members = membersPretty depth members
  | [], _ => rfl
  | (name, value) :: members, depth => by
    rw [laidMembers, membersPretty, laid_indented value, laidMembers_indented members]
    rfl

end

theorem quoted_append (name : String) (rest : List Char) :
    quoted name ++ rest = '"' :: (name.toList.flatMap escaped ++ '"' :: rest) := by
  rw [quoted, List.cons_append, List.append_assoc, List.singleton_append]

section Reader

variable [NumberReader] {bound : ℕ} {blanks chars : List Char} {first : Char} {others : List Char}

theorem treeWithin_append (blank : AllBlank blanks) (chars : List Char) :
    treeWithin bound (blanks ++ chars) = treeWithin bound chars := by
  cases bound with
  | zero => rfl
  | succ bound => rw [treeWithin, treeWithin, blank.dropBlanks_append]

theorem treeWithin_of_begins (same : chars = first :: others) (mark : BeginsScalar first) :
    treeWithin (bound + 1) chars = scalar chars := by
  subst same
  rw [treeWithin, dropBlanks_cons others mark.blank]
  split
  · rename_i open_
    exact absurd (List.cons.inj open_).1 mark.bracket
  · rename_i open_
    exact absurd (List.cons.inj open_).1 mark.brace
  · rfl

/-- A sequence with items goes on with the first of them. -/
theorem treeWithin_bracket (blank : AllBlank blanks) (same : chars = first :: others)
    (mark : isBlank first = false) (other : first ≠ ']') :
    treeWithin (bound + 1) ('[' :: (blanks ++ chars)) =
      (.sequence (itemsWithin bound chars).1, (itemsWithin bound chars).2) := by
  subst same
  rw [treeWithin, dropBlanks_cons _ rfl]
  simp only [blank.dropBlanks_append, dropBlanks_cons others mark]
  split
  · rename_i close
    exact absurd (List.cons.inj close).1 other
  · rfl

theorem treeWithin_brace (blank : AllBlank blanks) (chars : List Char) :
    treeWithin (bound + 1) ('\x7b' :: (blanks ++ '"' :: chars)) =
      (.table (entriesWithin bound ('"' :: chars)).1, (entriesWithin bound ('"' :: chars)).2) := by
  rw [treeWithin, dropBlanks_cons _ rfl]
  simp only [blank.dropBlanks_append, dropBlanks_cons chars (show isBlank '"' = false from rfl)]
  rfl

theorem itemsWithin_bracket (blank : AllBlank blanks) {item : Tree} {rest : List Char}
    (read : treeWithin bound chars = (item, blanks ++ ']' :: rest)) :
    itemsWithin (bound + 1) chars = (.more item .closed, rest) := by
  rw [itemsWithin, read]
  simp only [blank.dropBlanks_append, dropBlanks_cons rest (show isBlank ']' = false from rfl)]

theorem itemsWithin_comma (blank : AllBlank blanks) {after : List Char} {item : Tree}
    (read : treeWithin bound chars = (item, ',' :: (blanks ++ after)))
    (same : after = first :: others) (mark : isBlank first = false) (other : first ≠ ']') :
    itemsWithin (bound + 1) chars =
      (.more item (itemsWithin bound after).1, (itemsWithin bound after).2) := by
  subst same
  rw [itemsWithin, read]
  simp only [dropBlanks_cons (blanks ++ first :: others) (show isBlank ',' = false from rfl),
    blank.dropBlanks_append, dropBlanks_cons others mark]
  split
  · rename_i close
    exact absurd (List.cons.inj close).1 other
  · rfl

theorem entriesWithin_brace (blank : AllBlank blanks) (name : String) {rest : List Char}
    {tree : Tree} (read : treeWithin bound chars = (tree, blanks ++ '\x7d' :: rest)) :
    entriesWithin (bound + 1) (quoted name ++ ':' :: chars) =
      (.more (some name) tree .closed, rest) := by
  rw [quoted_append, entriesWithin, dropBlanks_cons _ rfl]
  simp only [quotedText?_escaped, dropBlanks_cons chars (show isBlank ':' = false from rfl), read,
    blank.dropBlanks_append, dropBlanks_cons rest (show isBlank '\x7d' = false from rfl)]

theorem entriesWithin_comma (blank : AllBlank blanks) (name next : String) {after : List Char}
    {tree : Tree} (read : treeWithin bound chars = (tree, ',' :: (blanks ++ (quoted next ++ after)))) :
    entriesWithin (bound + 1) (quoted name ++ ':' :: chars) =
      (.more (some name) tree (entriesWithin bound (quoted next ++ after)).1,
        (entriesWithin bound (quoted next ++ after)).2) := by
  rw [quoted_append next] at read ⊢
  rw [quoted_append, entriesWithin, dropBlanks_cons _ rfl]
  simp only [quotedText?_escaped, dropBlanks_cons chars (show isBlank ':' = false from rfl), read,
    dropBlanks_cons _ (show isBlank ',' = false from rfl), blank.dropBlanks_append,
    dropBlanks_cons _ (show isBlank '"' = false from rfl)]
  rfl

end Reader

section Laid

variable (layout : Layout)

theorem apart_laidItems (depth : ℕ) (items : List Value) (rest : List Char) :
    Apart (laidItems layout depth items ++ rest) := by
  cases items with
  | nil =>
    rw [laidItems, List.append_assoc]
    exact (layout.blankLine depth).apart (apart_cons rest (by decide))
  | cons item items =>
    rw [laidItems, List.cons_append]
    exact apart_cons _ (by decide)

theorem apart_laidMembers (depth : ℕ) (members : List (String × Value)) (rest : List Char) :
    Apart (laidMembers layout depth members ++ rest) := by
  cases members with
  | nil =>
    rw [laidMembers, List.append_assoc]
    exact (layout.blankLine depth).apart (apart_cons rest (by decide))
  | cons member members =>
    rw [laidMembers, List.cons_append]
    exact apart_cons _ (by decide)

theorem length_laidItems_pos (depth : ℕ) (items : List Value) :
    0 < (laidItems layout depth items).length := by
  cases items <;> simp [laidItems]

theorem length_laidMembers_pos (depth : ℕ) (members : List (String × Value)) :
    0 < (laidMembers layout depth members).length := by
  rcases members with _ | ⟨⟨_, _⟩, _⟩ <;> simp [laidMembers]

variable [NumberReader]

/-- No value begins with a blank or with a bracket that closes. -/
theorem begins (depth : ℕ) (value : Value) :
    ∃ first others, laid layout depth value = first :: others ∧ isBlank first = false ∧
      first ≠ ']' := by
  have scalar (isScalar : value.IsScalar) (same : laid layout depth value = value.chars) :
      ∃ first others, laid layout depth value = first :: others ∧ isBlank first = false ∧
        first ≠ ']' := by
    obtain ⟨_, first, others, begun, mark⟩ := isScalar.read apart_nil
    exact ⟨first, others, same.trans begun, mark.blank, mark.close⟩
  cases value with
  | null => exact scalar .null (by simp only [laid])
  | boolean value => exact scalar (.boolean value) (by simp only [laid])
  | number value => exact scalar (.number value) (by simp only [laid])
  | text value => exact scalar (.text value) (by simp only [laid])
  | array items =>
    cases items with
    | nil => exact ⟨'[', _, by rw [laid], rfl, by decide⟩
    | cons item items => exact ⟨'[', _, by rw [laid], rfl, by decide⟩
  | object members =>
    cases members with
    | nil => exact ⟨'\x7b', _, by rw [laid], rfl, by decide⟩
    | cons member members => exact ⟨'\x7b', _, by rw [laid], rfl, by decide⟩

theorem length_laid_pos (depth : ℕ) (value : Value) :
    0 < (laid layout depth value).length := by
  obtain ⟨first, others, same, _⟩ := begins layout depth value
  rw [same]
  exact Nat.succ_pos _

/-- What is printed is read back by a reader with this bound, which the length of what was
printed may not exceed: a value, the items of an array from any item on and the members of
an object from any member on. -/
structure ReadsWithin (bound : ℕ) : Prop where
  value (depth : ℕ) (value : Value) (rest : List Char)
    (short : (laid layout depth value).length ≤ bound) (apart : Apart rest) :
    treeWithin bound (laid layout depth value ++ rest) = (value.reread, rest)
  items (depth : ℕ) (item : Value) (items : List Value) (rest : List Char)
    (short : (laid layout (depth + 1) item ++ laidItems layout depth items).length ≤ bound) :
    itemsWithin bound (laid layout (depth + 1) item ++ (laidItems layout depth items ++ rest)) =
      (rereads (item :: items), rest)
  members (depth : ℕ) (name : String) (value : Value) (members : List (String × Value))
    (rest : List Char)
    (short : (laid layout (depth + 1) value ++ laidMembers layout depth members).length ≤ bound) :
    entriesWithin bound (quoted name ++ ':' :: (layout.space ++
        (laid layout (depth + 1) value ++ (laidMembers layout depth members ++ rest)))) =
      (rereadMembers ((name, value) :: members), rest)

theorem readsWithin_zero : ReadsWithin layout 0 where
  value depth value _ short _ := absurd short (length_laid_pos layout depth value).not_ge
  items depth _ items _ short := by
    rw [List.length_append] at short
    have := length_laidItems_pos layout depth items
    omega
  members depth _ _ members _ short := by
    rw [List.length_append] at short
    have := length_laidMembers_pos layout depth members
    omega

variable {layout} {bound : ℕ}

theorem ReadsWithin.value_succ (reads : ReadsWithin layout bound) (depth : ℕ) (value : Value)
    (rest : List Char)
    (short : (laid layout depth value).length ≤ bound + 1) (apart : Apart rest) :
    treeWithin (bound + 1) (laid layout depth value ++ rest) = (value.reread, rest) := by
  have scalar (isScalar : value.IsScalar) (same : laid layout depth value = value.chars) :
      treeWithin (bound + 1) (laid layout depth value ++ rest) = (value.reread, rest) := by
    obtain ⟨read, first, others, begun, mark⟩ := isScalar.read apart
    rw [same, treeWithin_of_begins (by rw [begun]; rfl) mark, read]
  cases value with
  | null => exact scalar .null (by simp only [laid])
  | boolean value => exact scalar (.boolean value) (by simp only [laid])
  | number value => exact scalar (.number value) (by simp only [laid])
  | text value => exact scalar (.text value) (by simp only [laid])
  | array items =>
    cases items with
    | nil => rfl
    | cons item items =>
      have blank := layout.blankLine (depth + 1)
      simp only [laid, List.length_cons, List.length_append] at short
      obtain ⟨first, others, same, mark, other⟩ := begins layout (depth + 1) item
      have read := reads.items depth item items rest
        (by rw [List.length_append]; omega)
      rw [laid, List.cons_append, List.append_assoc, List.append_assoc,
        treeWithin_bracket blank (by rw [same]; rfl) mark other, read]
      rfl
  | object members =>
    rcases members with _ | ⟨⟨name, value⟩, members⟩
    · rfl
    · have blank := layout.blankLine (depth + 1)
      simp only [laid, List.length_cons, List.length_append] at short
      have read := reads.members depth name value members rest
        (by rw [List.length_append]; omega)
      rw [quoted_append] at read
      rw [laid]
      simp only [List.cons_append, List.append_assoc]
      rw [quoted_append, treeWithin_brace blank, read]
      rfl

theorem ReadsWithin.items_succ (reads : ReadsWithin layout bound) (depth : ℕ) (item : Value)
    (items : List Value) (rest : List Char)
    (short : (laid layout (depth + 1) item ++ laidItems layout depth items).length ≤ bound + 1) :
    itemsWithin (bound + 1)
        (laid layout (depth + 1) item ++ (laidItems layout depth items ++ rest)) =
      (rereads (item :: items), rest) := by
  rw [List.length_append] at short
  have nonempty := length_laidItems_pos layout depth items
  have read := reads.value (depth + 1) item (laidItems layout depth items ++ rest)
    (by omega) (apart_laidItems layout depth items rest)
  cases items with
  | nil =>
    rw [laidItems, List.append_assoc] at read ⊢
    exact itemsWithin_bracket (layout.blankLine depth) read
  | cons next items =>
    have some := length_laid_pos layout (depth + 1) item
    simp only [laidItems, List.length_cons, List.length_append] at short
    obtain ⟨first, others, same, mark, other⟩ := begins layout (depth + 1) next
    have more := reads.items depth next items rest (by rw [List.length_append]; omega)
    rw [laidItems] at read ⊢
    simp only [List.cons_append, List.append_assoc] at read ⊢
    rw [itemsWithin_comma (layout.blankLine (depth + 1)) read (by rw [same]; rfl) mark other, more]
    rfl

theorem ReadsWithin.members_succ (reads : ReadsWithin layout bound) (depth : ℕ) (name : String)
    (value : Value) (members : List (String × Value)) (rest : List Char)
    (short : (laid layout (depth + 1) value ++ laidMembers layout depth members).length ≤
      bound + 1) :
    entriesWithin (bound + 1) (quoted name ++ ':' :: (layout.space ++
        (laid layout (depth + 1) value ++ (laidMembers layout depth members ++ rest)))) =
      (rereadMembers ((name, value) :: members), rest) := by
  rw [List.length_append] at short
  have nonempty := length_laidMembers_pos layout depth members
  have read := reads.value (depth + 1) value (laidMembers layout depth members ++ rest)
    (by omega) (apart_laidMembers layout depth members rest)
  rw [← treeWithin_append layout.blankSpace] at read
  rcases members with _ | ⟨⟨next, another⟩, members⟩
  · rw [laidMembers, List.append_assoc] at read ⊢
    exact entriesWithin_brace (layout.blankLine depth) name read
  · have some := length_laid_pos layout (depth + 1) value
    simp only [laidMembers, List.length_cons, List.length_append] at short
    have more := reads.members depth next another members rest
      (by rw [List.length_append]; omega)
    rw [laidMembers] at read ⊢
    simp only [List.cons_append, List.append_assoc] at read ⊢
    rw [entriesWithin_comma (layout.blankLine (depth + 1)) name next read, more]
    rfl

variable (layout)

/-- The length of what was printed is bound enough, since every value, item and member has a
character of its own. -/
theorem readsWithin (bound : ℕ) : ReadsWithin layout bound := by
  induction bound with
  | zero => exact readsWithin_zero layout
  | succ bound ih => exact ⟨ih.value_succ, ih.items_succ, ih.members_succ⟩

/-- The text of a value in a layout, with blanks behind it or not, is read as the value again,
as far as its numbers are. -/
theorem tree_laid (value : Value) {blanks : List Char}
    (blank : AllBlank blanks) :
    tree (String.ofList (laid layout 0 value ++ blanks)) = (value.reread, true) := by
  have apart := blank.apart apart_nil
  have behind := blank.dropBlanks_append []
  rw [List.append_nil] at apart behind
  have read := (readsWithin layout (2 * (laid layout 0 value ++ blanks).length + 2)).value 0 value
    blanks (by rw [List.length_append]; omega) apart
  rw [tree, String.toList_ofList]
  dsimp only
  rw [read, behind]
  rfl

end Laid

theorem tree_compact [NumberReader] (value : Value) :
    tree value.compact = (value.reread, true) := by
  have read := tree_laid .tight value AllBlank.nil
  rwa [laid_tight, List.append_nil] at read

theorem tree_pretty [NumberReader] (value : Value) {blanks : List Char} (blank : AllBlank blanks) :
    tree (value.pretty ++ String.ofList blanks) = (value.reread, true) := by
  have read := tree_laid .indented value blank
  rwa [laid_indented, String.ofList_append] at read

mutual

theorem ofValue_injective :
    ∀ value other : Value, ofValue value = ofValue other → value = other
  | .null, .null, _ => rfl
  | .boolean _, .boolean _, same => by cases same; rfl
  | .number _, .number _, same => by cases same; rfl
  | .text _, .text _, same => by cases same; rfl
  | .array items, .array others, same => by
    rw [ofValues_injective items others (Tree.sequence.inj same)]
  | .object members, .object others, same => by
    rw [ofMembers_injective members others (Tree.table.inj same)]

theorem ofValues_injective :
    ∀ items others : List Value, ofValues items = ofValues others → items = others
  | [], [], _ => rfl
  | item :: items, other :: others, same => by
    obtain ⟨first, rest⟩ := Items.more.inj same
    rw [ofValue_injective item other first, ofValues_injective items others rest]

theorem ofMembers_injective :
    ∀ members others : List (String × Value), ofMembers members = ofMembers others →
      members = others
  | [], [], _ => rfl
  | (_, value) :: members, (_, other) :: others, same => by
    obtain ⟨names, first, rest⟩ := Entries.more.inj same
    rw [Option.some.inj names, ofValue_injective value other first,
      ofMembers_injective members others rest]

end

open scoped Nearest in
/-- Values with one compact text differ only in numbers that are not finite, since there is a
reader that reads all others back. -/
theorem plain_eq_of_compact_eq {value other : Value} (bounded : value.Bounded)
    (bounded' : other.Bounded) (same : value.compact = other.compact) :
    value.plain = other.plain := by
  have read := tree_compact value
  rw [same, tree_compact other] at read
  have trees := (Prod.mk.inj read).1
  rw [reread_eq _ bounded, reread_eq _ bounded'] at trees
  exact (ofValue_injective _ _ trees).symm

end Value

end ProfileDrift.Json
