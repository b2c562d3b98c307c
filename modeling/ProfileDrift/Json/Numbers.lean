import ProfileDrift.Decimal.Stepwise
import ProfileDrift.Json.Reader

namespace ProfileDrift.Json

/-- Every decimal is read as the double that is nearest to it. -/
@[reducible] def NumberReader.nearest : NumberReader := ⟨Decimal.Literal.toFloat⟩

/-- Decimals are read with few steps, of which each may round. -/
@[reducible] def NumberReader.stepwise : NumberReader := ⟨Decimal.Literal.stepwise⟩

namespace Nearest

scoped instance : NumberReader := .nearest

end Nearest

namespace Stepwise

/-- The program reads texts with a library that is quick rather than exact. -/
scoped instance : NumberReader := .stepwise

end Stepwise

end ProfileDrift.Json
