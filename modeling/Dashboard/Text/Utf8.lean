namespace Dashboard.Text.Utf8

def encodeChar (c : Char) : List UInt8 := String.utf8EncodeChar c

def encode (text : String) : List UInt8 := text.toUTF8.toList

/-- The six bits that a continuation byte carries. -/
def continuation? (byte : UInt8) : Option Nat :=
  if 0x80 ≤ byte ∧ byte < 0xc0 then some (byte.toNat - 0x80) else none

/-- The character of a code point from `least` on. -/
def scalar? (least code : Nat) : Option Char :=
  if least ≤ code ∧ code.isValidChar then some (Char.ofNat code) else none

/-- The character that the first bytes encode, and how many bytes follow the first. -/
def decodeChar? : List UInt8 → Option (Char × Nat)
  | [] => none
  | first :: rest =>
    let lead := first.toNat
    if lead < 0x80 then some (Char.ofNat lead, 0)
    else if lead < 0xc0 then none
    else if lead < 0xe0 then
      match rest with
      | second :: _ => do
        let low ← continuation? second
        let c ← scalar? 0x80 ((lead - 0xc0) * 64 + low)
        return (c, 1)
      | _ => none
    else if lead < 0xf0 then
      match rest with
      | second :: third :: _ => do
        let middle ← continuation? second
        let low ← continuation? third
        let c ← scalar? 0x800 ((lead - 0xe0) * 4096 + middle * 64 + low)
        return (c, 2)
      | _ => none
    else if lead < 0xf8 then
      match rest with
      | second :: third :: fourth :: _ => do
        let high ← continuation? second
        let middle ← continuation? third
        let low ← continuation? fourth
        let c ← scalar? 0x10000 ((lead - 0xf0) * 262144 + high * 4096 + middle * 64 + low)
        return (c, 3)
      | _ => none
    else none

/-- Decodes behind what is already `decoded`, which is in reverse order. -/
def decodeOnto? (decoded : List Char) (bytes : List UInt8) : Option (List Char) :=
  match bytes with
  | [] => some decoded.reverse
  | first :: rest =>
    match decodeChar? (first :: rest) with
    | some (c, more) => decodeOnto? (c :: decoded) (rest.drop more)
    | none => none
termination_by bytes.length
decreasing_by
  simp only [List.length_cons, List.length_drop]
  omega

/-- The characters that the bytes encode, if every byte belongs to one. -/
def decode? (bytes : List UInt8) : Option (List Char) := decodeOnto? [] bytes

private theorem length_le_of_decodeOnto? {decoded text : List Char} {bytes : List UInt8}
    (done : decodeOnto? decoded bytes = some text) : decoded.length ≤ text.length := by
  fun_induction decodeOnto? decoded bytes with
  | case1 decoded =>
    cases done
    simp
  | case2 decoded first rest c more read inductionHypothesis =>
    have longer := inductionHypothesis done
    rw [List.length_cons] at longer
    omega
  | case3 => cases done

/-- Only no bytes at all are the encoding of the empty text. -/
theorem eq_nil_of_decode? {bytes : List UInt8} (done : decode? bytes = some []) : bytes = [] := by
  cases bytes with
  | nil => rfl
  | cons first rest =>
    rw [decode?, decodeOnto?] at done
    split at done
    · exact absurd (length_le_of_decodeOnto? done) (by simp)
    · cases done

/-- Bytes that can complete the start of any character, the smallest and the largest second byte
among them. -/
def completions : List (List UInt8) :=
  [[0x80], [0xbf], [0x80, 0x80], [0xbf, 0x80], [0x80, 0x80, 0x80], [0xbf, 0x80, 0x80]]

/-- Whether bytes are the start of a character that others have to complete. -/
def isUnfinished (bytes : List UInt8) : Bool :=
  completions.any fun tail =>
    (decodeChar? (bytes ++ tail)).map Prod.snd == some (bytes.length + tail.length - 1)

/-- Whether bytes are the start of a text: characters, and perhaps the start of one more. -/
def startsText (bytes : List UInt8) : Bool :=
  match bytes with
  | [] => true
  | first :: rest =>
    match decodeChar? (first :: rest) with
    | some (_, more) => startsText (rest.drop more)
    | none => isUnfinished (first :: rest)
termination_by bytes.length
decreasing_by
  simp only [List.length_cons, List.length_drop]
  omega

end Dashboard.Text.Utf8
