import Dashboard.Http.Percent
import Dashboard.Http.Request
import Dashboard.Text.Blank

namespace Dashboard.Web

open Http (Method)

/-- A known path. Names in it are still escaped. -/
inductive Route where
  | health
  | metrics
  | widgetMetrics (widget : List Char)
  | widgetData (widget : List Char)
  | widgetEntry (widget key : List Char)
  | live
deriving DecidableEq, Repr

inductive Action where
  | tellHealth
  | tellMetrics
  | tellWidgetMetrics (widget : List Char)
  | save (widget : List Char)
  | load (widget key : List Char)
  | erase (widget key : List Char)
  | connect
deriving DecidableEq, Repr

namespace Route

/-- The route of a path. The last name in a path is not empty. -/
def ofPath? (path : List Char) : Option Route :=
  match Text.fields '/' path with
  | [] :: api :: rest =>
    if api = "api".toList then
      match rest.map String.ofList with
      | ["ws"] => some live
      | ["v1", "health"] => some health
      | ["v1", "metrics"] => some metrics
      | ["v1", "metrics", "widgets", widget] =>
        if widget.isEmpty then none else some (widgetMetrics widget.toList)
      | ["v1", "widgets", widget, "data"] => some (widgetData widget.toList)
      | ["v1", "widgets", widget, "data", key] =>
        if key.isEmpty then none else some (widgetEntry widget.toList key.toList)
      | _ => none
    else none
  | _ => none

def methods : Route → List Method
  | health | metrics | widgetMetrics _ | live => [.get, .head]
  | widgetData _ => [.post]
  | widgetEntry .. => [.get, .head, .delete]

/-- The methods that a route answers, as a header lists them. -/
def allowed (route : Route) : String := String.intercalate "," (route.methods.map Method.name)

/-- What a method asks for on a route; to ask for the head of an answer is to ask for the answer. -/
def action? (route : Route) (method : Method) : Option Action :=
  match route, method with
  | health, .get | health, .head => some .tellHealth
  | metrics, .get | metrics, .head => some .tellMetrics
  | widgetMetrics widget, .get | widgetMetrics widget, .head => some (.tellWidgetMetrics widget)
  | live, .get | live, .head => some .connect
  | widgetData widget, .post => some (.save widget)
  | widgetEntry widget key, .get | widgetEntry widget key, .head => some (.load widget key)
  | widgetEntry widget key, .delete => some (.erase widget key)
  | _, _ => none

theorem eq_widgetEntry_of_erase {route : Route} {method : Method} {widget key : List Char}
    (asks : route.action? method = some (.erase widget key)) : route = widgetEntry widget key := by
  cases route <;> cases method <;> simp_all [action?]

theorem key_ne_nil {path widget key : List Char} (found : ofPath? path = some (widgetEntry widget key)) :
    key ≠ [] := by
  rintro rfl
  simp only [ofPath?] at found
  split at found
  · split at found
    · split at found <;> simp at found
      exact found.1 found.2.2
    · cases found
  · cases found

end Route
end Dashboard.Web
