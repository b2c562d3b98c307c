import ProfileDrift.Method.Compare
import ProfileDrift.Proofs.ExactScalar
import ProfileDrift.Scalar.Blocks

namespace ProfileDrift

namespace Exact

open Scalar

theorem zero_add_sum (values : List Exact) : 0.0 + sum values = sum values := by
  have none : (0.0 : Exact) + 0.0 = 0.0 := by rw [zero_eq, real_add, add_zero]
  calc 0.0 + sum values = values.foldl (· + ·) (0.0 + 0.0) := List.foldl_assoc.symm
    _ = sum values := by rw [none]; rfl

theorem sum_cons (first : Exact) (rest : List Exact) : sum (first :: rest) = first + sum rest := by
  calc sum (first :: rest) = rest.foldl (· + ·) (0.0 + first) := rfl
    _ = rest.foldl (· + ·) (first + 0.0) := by rw [add_comm]
    _ = first + sum rest := List.foldl_assoc

theorem sum_perm {values others : List Exact} (reordered : values.Perm others) :
    sum values = sum others :=
  reordered.foldl_eq 0.0

theorem mean_perm {values others : List Exact} (reordered : values.Perm others) :
    mean values = mean others := by
  rw [mean, mean, sum_perm reordered, reordered.length_eq]

/-- Where nothing is rounded there is one sum and one mean. -/
noncomputable instance : Tally Exact := ⟨sum, mean⟩

section Blocks

theorem addSingle_eq (left right : Exact) : addSingle left right = left + right := rfl

/-- Eight lanes collapse into their sum. -/
theorem collapse_eq (a b c d e f g h : Exact) :
    collapse [a, b, c, d, e, f, g, h] = a + b + c + d + (e + f + g + h) := by
  have lanes : collapse [a, b, c, d, e, f, g, h] = a + e + (c + g) + (b + f + (d + h)) := by
    simp [collapse, halve, addSingle_eq]
  rw [lanes]
  ac_rfl

theorem blockSumFrom_eq {lanes : List Exact} (eight : lanes.length = 8) (values : List Exact) :
    blockSumFrom lanes values = collapse lanes + sum values := by
  fun_induction blockSumFrom lanes values with
  | case1 lanes a b c d e f g h rest ih =>
    rw [ih (by rw [List.length_zipWith, eight]; rfl)]
    match lanes, eight with
    | [a', b', c', d', e', f', g', h'], _ =>
      simp only [List.zipWith_cons_cons, List.zipWith_nil_left, collapse_eq, sum_cons]
      change a' + a + (b' + b) + (c' + c) + (d' + d) + (e' + e + (f' + f) + (g' + g) + (h' + h)) +
        sum rest = _
      ac_rfl
  | case2 lanes rest _ =>
    have start : (-0.0 : Exact) = 0.0 := negative_zero_eq.trans zero_eq.symm
    change collapse lanes + rest.foldl (· + ·) (-0.0) = _
    rw [start]
    rfl

theorem blockSum_eq (values : List Exact) : blockSum values = sum values := by
  have empty : collapse (List.replicate 8 (0.0 : Exact)) = 0.0 := by
    change collapse [0.0, 0.0, 0.0, 0.0, 0.0, 0.0, 0.0, 0.0] = 0.0
    rw [collapse_eq]
    simp only [zero_eq, real_add, add_zero]
  rw [blockSum, blockSumFrom_eq rfl, empty, zero_add_sum]

/-- Where nothing is rounded, lanes do not show. -/
theorem lanes_eq : (Tally.lanes : Tally Exact) = ⟨sum, mean⟩ := by
  have means (values : List Exact) : blockMean values = mean values := by
    rw [blockMean, blockSum_eq]
    rfl
  rw [Tally.lanes, funext blockSum_eq, funext means]

end Blocks

variable {factor : ℝ}

theorem sum_map_scale (values : List Exact) :
    sum (values.map (scale factor)) = scale factor (sum values) := by
  induction values with
  | nil => exact scale_zero.symm
  | cons first rest ih => rw [List.map_cons, sum_cons, ih, sum_cons, scale_add]

theorem mean_map_scale (values : List Exact) :
    mean (values.map (scale factor)) = scale factor (mean values) := by
  rw [mean, sum_map_scale, List.length_map, scale_div]
  rfl

theorem sum_map_add (shift : ℝ) (values : List Exact) :
    sum (values.map (· + real shift)) = sum values + real (values.length * shift) := by
  induction values with
  | nil =>
    change (0.0 : Exact) = 0.0 + real _
    rw [zero_eq, real_add, List.length_nil, Nat.cast_zero, zero_mul, add_zero]
  | cons first rest ih =>
    have shifts : real shift + real (rest.length * shift) =
        real ((first :: rest).length * shift) := by
      rw [real_add, List.length_cons]
      push_cast
      exact congrArg real (by ring)
    rw [List.map_cons, sum_cons, ih, sum_cons, ← shifts]
    ac_rfl

/-- What is added to every number is added to their mean, if there are any. -/
theorem mean_map_add (shift : ℝ) {values : List Exact} (some : values ≠ []) :
    mean (values.map (· + real shift)) = mean values + real shift := by
  have count : (values.length : ℝ) ≠ 0 := by simpa using some
  rw [mean, mean, sum_map_add, List.length_map]
  cases sum values <;> try rfl
  rename_i total
  change div (total + values.length * shift) values.length = div total values.length + real shift
  rw [div, div, if_neg count, if_neg count, real_add]
  exact congrArg real (by field_simp)

end Exact

theorem Method.averageAmount?_eq (profile : Profile Exact) (uid : String) :
    averageAmount? profile uid =
      if (profile.observations uid).isEmpty then none
      else some (Scalar.mean ((profile.observations uid).map (·.y))) := by
  unfold averageAmount?
  cases profile.observations uid with
  | nil => rfl
  | cons first rest => rfl

end ProfileDrift
