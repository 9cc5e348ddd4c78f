import Dashboard.Decimal.Style
import Dashboard.Text.Quoted

namespace Dashboard.Schema

inductive Found where
  | null
  | bool (value : Bool)
  | integer (value : Int)
  | float (value : Float)
  | string (text : String)
  | sequence
  | map
deriving Repr

/-- The text of what was found; how a float is written depends on the format of the data. -/
def Found.text (floats : Decimal.Style) : Found → String
  | null => "null"
  | bool true => "boolean `true`"
  | bool false => "boolean `false`"
  | integer value => "integer `" ++ toString value ++ "`"
  | float value => "floating point `" ++ floats.text value ++ "`"
  | string text => "string " ++ Text.Quoted.text text
  | sequence => "sequence"
  | map => "map"

/-- A reason why data does not have the expected shape. -/
inductive Misfit where
  | wrongType (found : Found) (expected : String)
  | wrongValue (found : Found) (expected : String)
  | wrongLength (length : Nat) (expected : String)
  | missingField (name : String)
  | duplicateField (name : String)
  | unknownVariant (name : String) (variants : List String)
deriving Repr

/-- Names in backticks: one alone, two joined by `or`, more as a list. -/
def choices (names : List String) : String :=
  match names with
  | [] => "there are no variants"
  | [only] => "expected `" ++ only ++ "`"
  | [first, second] => "expected `" ++ first ++ "` or `" ++ second ++ "`"
  | _ => "expected one of " ++ String.intercalate ", " (names.map fun name => "`" ++ name ++ "`")

def Misfit.text (floats : Decimal.Style) : Misfit → String
  | wrongType found expected => "invalid type: " ++ found.text floats ++ ", expected " ++ expected
  | wrongValue found expected => "invalid value: " ++ found.text floats ++ ", expected " ++ expected
  | wrongLength length expected => "invalid length " ++ toString length ++ ", expected " ++ expected
  | missingField name => "missing field `" ++ name ++ "`"
  | duplicateField name => "duplicate field `" ++ name ++ "`"
  | unknownVariant name variants => "unknown variant `" ++ name ++ "`, " ++ choices variants

/-- The least and the greatest of a range of whole numbers, and what one is called. -/
structure IntegerKind where
  least : Int
  greatest : Int
  name : String
deriving Repr

namespace IntegerKind

def signed64 : IntegerKind := ⟨-0x8000000000000000, 0x7fffffffffffffff, "i64"⟩
def unsigned64 : IntegerKind := ⟨0, 0xffffffffffffffff, "u64"⟩
def size : IntegerKind := ⟨0, 0xffffffffffffffff, "usize"⟩
def port : IntegerKind := ⟨0, 0xffff, "u16"⟩

def check (kind : IntegerKind) (value : Int) : Except Misfit Int :=
  if kind.least ≤ value ∧ value ≤ kind.greatest then .ok value
  else .error (.wrongValue (.integer value) kind.name)

end IntegerKind
end Dashboard.Schema
