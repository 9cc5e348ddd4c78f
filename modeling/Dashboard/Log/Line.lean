import Dashboard.Log.Settings
import Dashboard.Text.Wrap
import Dashboard.Time.Calendar

namespace Dashboard.Log

/-- A message of a subsystem, not yet filtered. -/
structure Record where
  tag : Tag
  level : Level
  message : String
deriving DecidableEq, Repr

/-- Select-graphic-rendition codes, in the order in which they are written. -/
abbrev Colour := List Nat

def Tag.colour : Tag → Colour
  | .system => [1, 93]
  | .config => [1, 33]
  | .hub => [1, 96]
  | .rateLimit => [1, 95]
  | .cache => [1, 94]
  | .metrics => [1, 36]
  | .webserver => [1, 92]
  | .library _ => [1, 37]

def Level.colour : Level → Colour
  | .error => [1, 91]
  | .warning => [1, 93]
  | .info => [1, 37]
  | .debug => [2]
  | .verbose => [2]

def escape : Char := '\x1b'

def Colour.codes : Colour → List Char
  | [] => []
  | [code] => Nat.toDigits 10 code
  | code :: rest => Nat.toDigits 10 code ++ ';' :: Colour.codes rest

/-- A text between the sequence that turns a colour on and the one that resets it. -/
def paint (coloured : Bool) (colour : Colour) (text : List Char) : List Char :=
  if coloured then escape :: '[' :: (colour.codes ++ 'm' :: text) ++ [escape, '[', '0', 'm']
  else text

/-- The text without escape sequences; a sequence ends at its first `m`. -/
def strip (text : List Char) : List Char :=
  let step (state : Bool × List Char) (c : Char) : Bool × List Char :=
    if c = escape then (true, state.2)
    else if state.1 then (c ≠ 'm', state.2)
    else (false, c :: state.2)
  (text.foldl step (false, [])).2.reverse

/-- The text with blanks behind it up to `width` characters. -/
def padded (width : Nat) (text : List Char) : List Char :=
  text ++ List.replicate (width - text.length) ' '

def lineHead (coloured : Bool) (time : WallTime) (tag : Tag) (level : Level) : List Char :=
  paint coloured [2] (time.clockText.toList ++ [' ']) ++
    '[' :: paint coloured tag.colour (padded 10 tag.label) ++ "] [".toList ++
    paint coloured level.colour (padded 7 level.label.toList) ++ "] ".toList

/-- Lines are at most this wide, except behind a very long head. -/
def lineWidth : Nat := 145

/-- The room for the message behind a head of `width` characters. -/
def messageWidth (width : Nat) : Nat := max (lineWidth - width) 50

def printed (coloured : Bool) (time : WallTime) (tag : Tag) (level : Level)
    (message : List Char) : List (List Char) :=
  let head := lineHead coloured time tag level
  let width := (strip head).length
  match Text.wrap (messageWidth width) message with
  | [] => []
  | first :: others => (head ++ first) :: others.map (List.replicate width ' ' ++ ·)

structure Console where
  settings : Settings
  coloured : Bool
deriving Repr

/-- The lines printed for a record, none if it is filtered out. -/
def Console.lines (console : Console) (time : WallTime) (record : Record) : List String :=
  if console.settings.shows record.tag record.level then
    (printed console.coloured time record.tag record.level record.message.toList).map
      String.ofList
  else []

/-- The lines printed for several records of one moment. -/
def Console.allLines (console : Console) (time : WallTime) (records : List Record) :
    List String :=
  records.flatMap (console.lines time)

end Dashboard.Log
