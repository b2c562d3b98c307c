import ProfileDrift.Scalar
import ProfileDrift.Model.Family

namespace ProfileDrift

/-- A curve of one family together with how well it explains the observations
it was fitted to and the range of sizes that they cover. -/
structure Model (α : Type) where
  family : Family
  coefficients : List α
  rSquare : α
  xStart : α
  xEnd : α

namespace Model

variable {α : Type} [Scalar α]

/-- A coefficient that the model does not carry counts as zero. -/
def coefficient (model : Model α) (index : Nat) : α := model.coefficients.getD index 0.0

def evaluate (model : Model α) (x : α) : α :=
  let a := model.coefficient 0
  let b := model.coefficient 1
  match model.family with
  | .constant => a
  | .linear => a + b * x
  | .logarithmic => a + b * Scalar.log10 x
  | .quadratic => a + b * x * x
  | .power => a * Scalar.power x b
  | .exponential => a * Scalar.power b x

/-- An antiderivative of the natural logarithm, continued by zero at zero. -/
def logarithmArea (x : α) : α := if x == 0.0 then 0.0 else x * Scalar.ln x - x

/-- The area under the curve between two sizes, from its antiderivative. A power
law with exponent minus one and an exponential with base one have antiderivatives
of their own. -/
def integral (model : Model α) (start stop : α) : α :=
  let a := model.coefficient 0
  let b := model.coefficient 1
  let width := stop - start
  match model.family with
  | .constant => a * width
  | .linear => a * width + b * (stop * stop - start * start) / 2.0
  | .quadratic => a * width + b * (stop * (stop * stop) - start * (start * start)) / 3.0
  | .logarithmic =>
    a * width + b * (logarithmArea stop - logarithmArea start) / Scalar.ln 10.0
  | .power =>
    let exponent := b + 1.0
    if exponent == 0.0 then a * Scalar.ln (stop / start)
    else a * (Scalar.power stop exponent - Scalar.power start exponent) / exponent
  | .exponential =>
    let rate := Scalar.ln b
    if rate == 0.0 then a * width
    else a * (Scalar.power b stop - Scalar.power b start) / rate

end Model

end ProfileDrift
