namespace Dashboard.Json

inductive Number where
  | integer (value : Int)
  | float (value : Float)
deriving Repr, Inhabited

inductive Value where
  | null
  | bool (value : Bool)
  | number (value : Number)
  | string (text : String)
  | array (items : List Value)
  | object (members : List (String × Value))
deriving Repr, Inhabited

abbrev Members := List (String × Value)

namespace Members

/-- Puts a member where its key belongs, in place of the key's present one. -/
def insert (key : String) (value : Value) : Members → Members
  | [] => [(key, value)]
  | present :: rest =>
    if key = present.1 then (key, value) :: rest
    else if key < present.1 then (key, value) :: present :: rest
    else present :: insert key value rest

/-- The members in order; of several with one key the last counts. -/
def ofList (entries : List (String × Value)) : Members :=
  entries.foldl (fun members entry => insert entry.1 entry.2 members) []

/-- Keys ascend strictly. -/
def Ordered (members : Members) : Prop := (members.map Prod.fst).Pairwise (· < ·)

end Members

namespace Value

def integer (value : Int) : Value := .number (.integer value)

/-- A float as a value; what is no finite number becomes `null`. -/
def ofFloat (value : Float) : Value :=
  if value.isFinite then .number (.float value) else .null

def ofEntries (entries : List (String × Value)) : Value := .object (Members.ofList entries)

def get? (value : Value) (key : String) : Option Value :=
  match value with
  | .object members => members.lookup key
  | _ => none

end Value
end Dashboard.Json
