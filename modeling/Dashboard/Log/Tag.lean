import Dashboard.Text.Uppercase

namespace Dashboard.Log

/-- Subsystems; a library logs under its own target path. -/
inductive Tag where
  | system
  | config
  | hub
  | rateLimit
  | cache
  | metrics
  | webserver
  | library (target : String)
deriving DecidableEq, Repr

namespace Tag

/-- The word that follows `--debug-` on the command line. -/
def key : Tag → String
  | system => "system"
  | config => "config"
  | hub => "hub"
  | rateLimit => "ratelimit"
  | cache => "cache"
  | metrics => "metrics"
  | webserver => "webserver"
  | library _ => "external"

/-- The part of a target path before the first double colon. -/
def crateName : List Char → List Char
  | ':' :: ':' :: _ => []
  | c :: rest => c :: crateName rest
  | [] => []

/-- The column text of a subsystem: its key in capitals, and for a library its first name. -/
def label (tag : Tag) : List Char :=
  match tag with
  | library target => Text.Uppercase.text (crateName target.toList)
  | _ => Text.Uppercase.text tag.key.toList

end Tag
end Dashboard.Log
