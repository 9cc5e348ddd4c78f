import Dashboard.Text.Utf8

namespace Dashboard.Json

/-- A character of the text, or a byte that is not part of one. -/
inductive Symbol where
  | char (c : Char)
  | stray (byte : UInt8)
deriving DecidableEq, Repr

namespace Symbol

def width : Symbol → Nat
  | char c => c.utf8Size
  | stray _ => 1

def ofText (text : String) : List Symbol := text.toList.map char

private def decodeOnto (decoded : List Symbol) (bytes : List UInt8) : List Symbol :=
  match bytes with
  | [] => decoded.reverse
  | first :: rest =>
    match Text.Utf8.decodeChar? (first :: rest) with
    | some (c, more) => decodeOnto (char c :: decoded) (rest.drop more)
    | none => decodeOnto (stray first :: decoded) rest
termination_by bytes.length
decreasing_by
  all_goals
    simp only [List.length_cons, List.length_drop]
    omega

def ofBytes (bytes : List UInt8) : List Symbol := decodeOnto [] bytes

def bytesOf (symbols : List Symbol) : Nat :=
  symbols.foldl (fun total symbol => total + symbol.width) 0

end Symbol

/-- A place in a text: lines count from one, and columns are the bytes before it on its line. -/
structure Position where
  line : Nat
  column : Nat
deriving DecidableEq, Repr

namespace Position

def advance (start : Position) (offset : Nat) : List Symbol → Position
  | [] => start
  | symbol :: rest =>
    if offset = 0 then start
    else if symbol = .char '\n' then advance ⟨start.line + 1, 0⟩ (offset - 1) rest
    else
      advance ⟨start.line, start.column + min symbol.width offset⟩ (offset - symbol.width) rest

/-- The place in a text behind which `left` bytes follow. -/
def ofLeft (text : List Symbol) (left : Nat) : Position :=
  advance ⟨1, 0⟩ (Symbol.bytesOf text - left) text

def text (position : Position) : String :=
  "line " ++ toString position.line ++ " column " ++ toString position.column

end Position
end Dashboard.Json
