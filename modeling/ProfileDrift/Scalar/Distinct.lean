import ProfileDrift.Scalar

namespace ProfileDrift

namespace Scalar

/-- How many different values there are: they are put in a row, and of equal ones that
stand side by side only the first is counted. -/
def distinctCount {α : Type} [Scalar α] (values : List α) : Nat :=
  (values.mergeSort precedes).eraseReps.length

end Scalar

section Repeats

variable {α : Type} {same : α → α → Bool}

theorem lt_length_loop (kept : α) (values done : List α) :
    done.length < (List.eraseRepsBy.loop same kept values done).length := by
  induction values generalizing kept done with
  | nil => simp [List.eraseRepsBy.loop]
  | cons value rest ih =>
    rw [List.eraseRepsBy.loop]
    split
    · exact ih kept done
    · exact Nat.lt_of_succ_lt (ih value (kept :: done))

/-- Nothing is kept after a value only if all that follow are the same as it. -/
theorem length_loop_eq_iff (kept : α) (values done : List α) :
    (List.eraseRepsBy.loop same kept values done).length = done.length + 1 ↔
      ∀ value ∈ values, same kept value = true := by
  induction values generalizing kept done with
  | nil => simp [List.eraseRepsBy.loop]
  | cons value rest ih =>
    rw [List.eraseRepsBy.loop, List.forall_mem_cons]
    split
    · rename_i alike
      rw [ih, and_iff_right alike]
    · rename_i other
      have more : done.length + 1 < (List.eraseRepsBy.loop same value rest (kept :: done)).length :=
        lt_length_loop value rest (kept :: done)
      exact iff_of_false (Nat.ne_of_gt more) fun each => Bool.noConfusion (other.symm.trans each.1)

theorem length_eraseReps_lt_two_iff [BEq α] {first : α} {rest : List α} :
    (first :: rest).eraseReps.length < 2 ↔ ∀ value ∈ rest, (first == value) = true := by
  have some : 0 < (first :: rest).eraseReps.length := lt_length_loop first rest []
  rw [← length_loop_eq_iff first rest []]
  exact ⟨fun few => Nat.le_antisymm (Nat.le_of_lt_succ few) some, fun one => one ▸ Nat.lt_succ_self 1⟩

end Repeats

/-- At most one value is counted exactly where there is at most one, or where each is equal to
each. The row does not matter for that, so it need not put equal values side by side. -/
theorem Scalar.distinctCount_lt_two_iff {α : Type} [Scalar α] [PartialEquivBEq α]
    {values : List α} :
    distinctCount values < 2 ↔
      values.length < 2 ∨ ∀ value ∈ values, ∀ other ∈ values, (value == other) = true := by
  have perm := List.mergeSort_perm values precedes
  have members (value : α) : value ∈ values.mergeSort precedes ↔ value ∈ values := perm.mem_iff
  rw [← perm.length_eq, distinctCount]
  simp only [← members]
  generalize values.mergeSort precedes = row
  match row with
  | [] => exact iff_of_true Nat.zero_lt_two (.inl Nat.zero_lt_two)
  | [_] => exact iff_of_true Nat.one_lt_two (.inl Nat.one_lt_two)
  | first :: second :: rest =>
    have several : ¬ (first :: second :: rest).length < 2 := by simp
    rw [length_eraseReps_lt_two_iff, or_iff_right several]
    constructor
    · intro each
      have reflexive : (first == first) = true :=
        PartialEquivBEq.trans (each second (by simp)) (PartialEquivBEq.symm (each second (by simp)))
      have head : ∀ value ∈ first :: second :: rest, (first == value) = true :=
        List.forall_mem_cons.mpr ⟨reflexive, each⟩
      exact fun value member other another =>
        PartialEquivBEq.trans (PartialEquivBEq.symm (head value member)) (head other another)
    · exact fun each value member =>
        each first (List.mem_cons_self ..) value (List.mem_cons_of_mem _ member)

end ProfileDrift
