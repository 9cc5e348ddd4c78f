import Dashboard.Text.Blank

namespace Dashboard.Text

/-- Consecutive pieces of `size` characters; the last may be shorter. -/
def pieces (size : Nat) (text : List Char) : List (List Char) :=
  if _fits : size = 0 ∨ text.length ≤ size then [text]
  else text.take size :: pieces size (text.drop size)
termination_by text.length
decreasing_by
  simp only [not_or, Nat.not_le] at _fits
  simp only [List.length_drop]
  omega

/-- The chunks finished so far and the line being filled. -/
structure Filling where
  finished : List (List Char)
  current : List Char
deriving Repr

namespace Filling

def start : Filling := ⟨[], []⟩

/-- All chunks, with the line being filled as the last unless it is empty. -/
def close (filling : Filling) : List (List Char) :=
  if filling.current.isEmpty then filling.finished else filling.finished ++ [filling.current]

/-- Puts the next word on the current line if it fits there, else on a line of its own; a word
wider than a line is cut and ends the current line. -/
def place (width : Nat) (filling : Filling) (word : List Char) : Filling :=
  if width < word.length then ⟨filling.close ++ pieces width word, []⟩
  else if filling.current.isEmpty then ⟨filling.finished, word⟩
  else if filling.current.length + word.length + 1 ≤ width then
    ⟨filling.finished, filling.current ++ ' ' :: word⟩
  else ⟨filling.finished ++ [filling.current], word⟩

end Filling

def wrapLine (width : Nat) (line : List Char) : List (List Char) :=
  if line.length ≤ width then [line]
  else ((words line).foldl (Filling.place width) Filling.start).close

def wrap (width : Nat) (message : List Char) : List (List Char) :=
  match (fields '\n' message).flatMap (wrapLine width) with
  | [] => [[]]
  | chunks => chunks

end Dashboard.Text
