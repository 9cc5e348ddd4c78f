namespace Dashboard.Association

/-- Puts a value in the place of the key's present one, or behind all others. -/
def put {Key Value : Type} [DecidableEq Key] (key : Key) (value : Value) :
    List (Key × Value) → List (Key × Value)
  | [] => [(key, value)]
  | entry :: rest => if entry.1 = key then (key, value) :: rest else entry :: put key value rest

end Dashboard.Association
