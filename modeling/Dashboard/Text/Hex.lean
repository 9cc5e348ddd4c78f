namespace Dashboard.Text.Hex

/-- The value of a hexadecimal digit of either case. -/
def digit? (c : Char) : Option Nat :=
  if '0' ≤ c && c ≤ '9' then some (c.toNat - 48)
  else if 'a' ≤ c && c ≤ 'f' then some (c.toNat - 87)
  else if 'A' ≤ c && c ≤ 'F' then some (c.toNat - 55)
  else none

theorem digit?_digitChar {digit : Nat} (small : digit < 16) :
    digit? (Nat.digitChar digit) = some digit := by
  have digits : ∀ digit < 16, digit? (Nat.digitChar digit) = some digit := by decide
  exact digits digit small

def value? (digits : List Char) : Option Nat :=
  digits.foldlM (fun value digit => (digit? digit).map (16 * value + ·)) 0

def ofByte (byte : UInt8) : List Char :=
  [Nat.digitChar (byte.toNat / 16), Nat.digitChar (byte.toNat % 16)]

theorem length_flatMap_ofByte (bytes : List UInt8) :
    (bytes.flatMap ofByte).length = 2 * bytes.length := by
  induction bytes with
  | nil => rfl
  | cons byte bytes inductionHypothesis =>
    rw [List.flatMap_cons, List.length_append, inductionHypothesis, List.length_cons]
    simp only [ofByte, List.length_cons, List.length_nil]
    omega

def encode (bytes : List UInt8) : String := String.ofList (bytes.flatMap ofByte)

/-- The bytes behind those already `decoded`, which are in reverse order. -/
private def decodeOnto? (decoded : List UInt8) : List Char → Option (List UInt8)
  | [] => some decoded.reverse
  | [_] => none
  | high :: low :: rest =>
    match digit? high, digit? low with
    | some high, some low => decodeOnto? (UInt8.ofNat (16 * high + low) :: decoded) rest
    | _, _ => none

def decode? (digits : List Char) : Option (List UInt8) := decodeOnto? [] digits

end Dashboard.Text.Hex
