import Mathlib.Data.List.Forall2
import ProfileDrift.Proofs.DoubleSigns
import ProfileDrift.Scalar.Blocks

namespace ProfileDrift.Scalar

variable {α : Type} [Scalar α] {related : α → α → Prop}

/-- A relation that single precision sums keep. -/
structure Respected (related : α → α → Prop) : Prop where
  zero : related 0.0 0.0
  negativeZero : related (-0.0) (-0.0)
  addSingle {left right left' right'} :
    related left right → related left' right' →
      related (addSingle left left') (addSingle right right')

namespace Respected

variable (respected : Respected related) {lanes lanes' values values' : List α}

include respected in
theorem zipWith (alike : List.Forall₂ related lanes lanes')
    (alike' : List.Forall₂ related values values') :
    List.Forall₂ related (lanes.zipWith Scalar.addSingle values)
      (lanes'.zipWith Scalar.addSingle values') := by
  induction alike generalizing values values' with
  | nil => exact .nil
  | cons head _ ih =>
    cases alike' with
    | nil => exact .nil
    | cons head' rest => exact .cons (respected.addSingle head head') (ih rest)

include respected in
theorem halve (alike : List.Forall₂ related lanes lanes') :
    List.Forall₂ related (Scalar.halve lanes) (Scalar.halve lanes') := by
  unfold Scalar.halve
  rw [alike.length_eq]
  exact respected.zipWith (List.forall₂_take _ alike) (List.forall₂_drop _ alike)

include respected in
theorem collapse (alike : List.Forall₂ related lanes lanes') :
    related (Scalar.collapse lanes) (Scalar.collapse lanes') := by
  have halved := respected.halve (respected.halve (respected.halve alike))
  unfold Scalar.collapse
  generalize Scalar.halve (Scalar.halve (Scalar.halve lanes)) = first at halved ⊢
  generalize Scalar.halve (Scalar.halve (Scalar.halve lanes')) = second at halved ⊢
  cases halved with
  | nil => exact respected.zero
  | cons head _ => exact head

include respected in
/-- What holds between the values of two lists, one by one, holds between their sums. -/
theorem blockSumFrom (alike : List.Forall₂ related lanes lanes')
    (alike' : List.Forall₂ related values values') :
    related (Scalar.blockSumFrom lanes values) (Scalar.blockSumFrom lanes' values') := by
  induction lanes, values using Scalar.blockSumFrom.induct generalizing lanes' values' with
  | case1 lanes a b c d e f g h rest ih =>
    rcases alike' with _ | ⟨ha, _ | ⟨hb, _ | ⟨hc, _ | ⟨hd, _ | ⟨he, _ | ⟨hf, _ | ⟨hg, _ |
      ⟨hh, rest'⟩⟩⟩⟩⟩⟩⟩⟩
    rw [Scalar.blockSumFrom, Scalar.blockSumFrom]
    refine ih (respected.zipWith alike ?_) rest'
    exact .cons ha (.cons hb (.cons hc (.cons hd (.cons he (.cons hf (.cons hg (.cons hh .nil)))))))
  | case2 lanes rest short =>
    have short' : ∀ a b c d e f g h rest', values' = a :: b :: c :: d :: e :: f :: g :: h :: rest' →
        False := by
      rintro a b c d e f g h rest' rfl
      rcases alike' with _ | ⟨_, _ | ⟨_, _ | ⟨_, _ | ⟨_, _ | ⟨_, _ | ⟨_, _ | ⟨_, _ |
        ⟨_, _⟩⟩⟩⟩⟩⟩⟩⟩
      exact short _ _ _ _ _ _ _ _ _ rfl
    rw [Scalar.blockSumFrom.eq_2 _ _ short, Scalar.blockSumFrom.eq_2 _ _ short']
    refine respected.addSingle (respected.collapse alike) ?_
    exact List.rel_foldl (R := related) (P := related) (fun _ _ sum _ _ next => respected.addSingle sum next)
      respected.negativeZero alike'

include respected in
theorem blockSum (alike : List.Forall₂ related values values') :
    related (Scalar.blockSum values) (Scalar.blockSum values') := by
  have zeros : List.Forall₂ related (List.replicate 8 (0.0 : α)) (List.replicate 8 0.0) :=
    List.forall₂_same.mpr fun value member => List.eq_of_mem_replicate member ▸ respected.zero
  exact respected.blockSumFrom zeros alike

end Respected

end ProfileDrift.Scalar

namespace ProfileDrift

open Double (IsOpposite)

/-- What is relied on of a library that adds up and averages singles: turning the signs of all
values turns the sign of their sum, and a mean is a single. Nothing is said about the order in
which it takes the values. -/
class LawfulTally [Tally Float] : Prop where
  sum_opposite {values others : List Float} : List.Forall₂ IsOpposite values others →
    IsOpposite (Tally.sum values) (Tally.sum others)
  mean_single (values : List Float) : ∃ value : Float, Tally.mean values = Scalar.toSingle value

theorem Scalar.respected_isOpposite : Respected IsOpposite where
  zero := .zeros _ _
  negativeZero := .zeros _ _
  addSingle opposite opposite' := (opposite.add opposite').toSingle

namespace Lanes

scoped instance : LawfulTally where
  sum_opposite opposite := Scalar.respected_isOpposite.blockSum opposite
  mean_single _ := ⟨_, rfl⟩

end Lanes

end ProfileDrift
