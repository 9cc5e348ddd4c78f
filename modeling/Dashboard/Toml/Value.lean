namespace Dashboard.Toml

/-- A TOML value; what a date or a time says is not kept. -/
inductive Value where
  | boolean (value : Bool)
  | integer (value : Int)
  | float (value : Float)
  | string (text : String)
  | datetime
  | array (items : List Value)
  | table (entries : List (String × Value))
deriving Repr, Inhabited

end Dashboard.Toml
