namespace Dashboard.Event

inductive Kind where
  | update
  | error
  | dataChanged
  | notification
deriving DecidableEq, Repr

namespace Kind

def all : List Kind := [update, error, dataChanged, notification]

def code : Kind → String
  | update => "update"
  | error => "error"
  | dataChanged => "data_changed"
  | notification => "notification"

/-- The kind that a code names; codes are matched exactly. -/
def ofCode? (code : String) : Option Kind := all.find? (·.code == code)

theorem ofCode?_code (kind : Kind) : ofCode? kind.code = some kind := by cases kind <;> decide

theorem code_of_ofCode? {code : String} {kind : Kind} (found : ofCode? code = some kind) :
    kind.code = code := by
  have := List.find?_some found
  simpa using this

end Kind
end Dashboard.Event
