namespace ProfileDrift

/-- One measured amount `y` at the size `x`. -/
structure Observation (α : Type) where
  x : α
  y : α

end ProfileDrift
