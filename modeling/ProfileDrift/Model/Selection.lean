import ProfileDrift.Model.Basic

namespace ProfileDrift.Model

variable {α : Type} [Scalar α]

/-- A model is better than another when it explains more, and of two that
explain the same the one whose family comes first by name is better. -/
def beats (candidate current : Model α) : Bool :=
  decide (current.rSquare < candidate.rSquare) ||
    (candidate.rSquare == current.rSquare &&
      decide (candidate.family.name < current.family.name))

/-- The better of the best so far and a candidate; one that explains no definite
part of the variance is passed over. -/
def better (best : Option (Model α)) (candidate : Model α) : Option (Model α) :=
  if Scalar.isFinite candidate.rSquare then
    match best with
    | none => some candidate
    | some current => if beats candidate current then some candidate else some current
  else best

/-- The best of some models, or none when nothing can be said about them. -/
def selectBest? (models : List (Model α)) : Option (Model α) := models.foldl better none

end ProfileDrift.Model
