import Dashboard.Text.Hex
import Dashboard.Text.Utf8

namespace Dashboard.Http.Percent

def byte? (high low : Char) : Option UInt8 :=
  match Text.Hex.digit? high, Text.Hex.digit? low with
  | some high, some low => some (UInt8.ofNat (16 * high + low))
  | _, _ => none

def bytes : List Char → List UInt8
  | [] => []
  | '%' :: high :: low :: rest =>
    match byte? high low with
    | some byte => byte :: bytes rest
    | none => Text.Utf8.encodeChar '%' ++ bytes (high :: low :: rest)
  | c :: rest => Text.Utf8.encodeChar c ++ bytes rest

/-- The text behind the escapes, if the bytes make one. -/
def decode? (text : List Char) : Option String :=
  (Text.Utf8.decode? (bytes text)).map String.ofList

theorem eq_nil_of_bytes {text : List Char} (none : bytes text = []) : text = [] := by
  have encoded (c : Char) : Text.Utf8.encodeChar c ≠ [] := by
    have positive : 0 < (String.utf8EncodeChar c).length := by
      rw [String.length_utf8EncodeChar]
      exact c.utf8Size_pos
    exact List.ne_nil_of_length_pos positive
  fun_cases bytes text with
  | case1 => rfl
  | case2 high low rest byte read => simp [bytes, read] at none
  | case3 high low rest read => simp [bytes, read, encoded] at none
  | case4 c rest plain => simp [bytes, encoded] at none

/-- Only the empty text stands for the empty text. -/
theorem eq_nil_of_decode? {text : List Char} (decoded : decode? text = some "") : text = [] := by
  obtain ⟨plain, read, same⟩ := Option.map_eq_some_iff.mp decoded
  obtain rfl : plain = [] := by simpa using same
  exact eq_nil_of_bytes (Text.Utf8.eq_nil_of_decode? read)

end Dashboard.Http.Percent
