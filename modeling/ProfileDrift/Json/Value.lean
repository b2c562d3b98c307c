namespace ProfileDrift.Json

/-- A number keeps whether it was written as a whole number within 64 bits. -/
inductive Number where
  | integer (value : Int)
  | decimal (value : Float)

/-- A JSON value. The members of an object stand in a definite order: values
read from text are sorted by name, values made from records keep the order in
which the fields of the record are declared. -/
inductive Value where
  | null
  | boolean (value : Bool)
  | number (value : Number)
  | text (value : String)
  | array (items : List Value)
  | object (members : List (String × Value))

namespace Number

def toFloat : Number → Float
  | integer value => Float.ofInt value
  | decimal value => value

end Number

namespace Value

instance : Inhabited Value := ⟨null⟩

/-- A count, written as a whole number. -/
def count (number : Nat) : Value := .number (.integer number)

/-- A measured quantity, written with a fraction or an exponent. -/
def quantity (value : Float) : Value := .number (.decimal value)

def texts (values : List String) : Value := .array (values.map .text)

end Value

end ProfileDrift.Json
