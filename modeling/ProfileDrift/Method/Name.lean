namespace ProfileDrift

/-- The ways of comparing two profiles. The constructors stand in the
alphabetical order of their full names. -/
inductive MethodName where
  | averageAmount
  | modelOrder
  | fastCheck
  | integral
  | linearRegression
  deriving DecidableEq, Repr

namespace MethodName

def all : List MethodName := [averageAmount, modelOrder, fastCheck, integral, linearRegression]

/-- The full name, which reports carry. -/
def full : MethodName → String
  | averageAmount => "average_amount_threshold"
  | modelOrder => "best_model_order_equality"
  | fastCheck => "fast_check"
  | integral => "integral_comparison"
  | linearRegression => "linear_regression"

def short : MethodName → String
  | averageAmount => "aat"
  | modelOrder => "bmoe"
  | fastCheck => "fast"
  | integral => "int"
  | linearRegression => "lreg"

def ofText? (text : String) : Option MethodName :=
  all.find? fun name => name.full == text || name.short == text

end MethodName

inductive SettingsError where
  | unknownMethod (name : String)
  | unknownParameter (method : MethodName) (parameter : String)
  | invalidParameter (method : MethodName) (parameter reason : String)
  deriving DecidableEq, Repr

namespace SettingsError

def message : SettingsError → String
  | unknownMethod name => s!"Unknown degradation method '{name}'"
  | unknownParameter method parameter =>
    s!"Unknown parameter '{parameter}' for method '{method.full}'"
  | invalidParameter method parameter reason =>
    s!"Invalid parameter '{parameter}' for method '{method.full}': {reason}"

end SettingsError

end ProfileDrift
