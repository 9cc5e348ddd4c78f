import Dashboard.Json.Reader
import Dashboard.Json.Text

namespace Dashboard

namespace Json

/-- Characters as the symbols of a text. -/
def Symbol.ofChars (chars : List Char) : List Symbol := chars.map .char

namespace Symbol

@[simp]
theorem ofChars_nil : ofChars [] = [] := rfl

@[simp]
theorem ofChars_cons (c : Char) (chars : List Char) : ofChars (c :: chars) = .char c :: ofChars chars :=
  rfl

@[simp]
theorem ofChars_append (chars more : List Char) :
    ofChars (chars ++ more) = ofChars chars ++ ofChars more := List.map_append

theorem ofText_ofList (chars : List Char) : ofText (String.ofList chars) = ofChars chars := by
  rw [ofText, String.toList_ofList, ofChars]

end Symbol

open Dashboard.Json.Symbol (ofChars)

/-- The escape of a control character is read as that character. -/
theorem escape_controlEscape {code : Nat} (control : code < 32) (rest : List Symbol) :
    escape (ofChars ((controlEscape code).tail) ++ rest) = .ok (Char.ofNat code, rest) := by
  have high : Text.Hex.digit? (Nat.digitChar (code / 16)) = some (code / 16) :=
    Text.Hex.digit?_digitChar (by omega)
  have low : Text.Hex.digit? (Nat.digitChar (code % 16)) = some (code % 16) :=
    Text.Hex.digit?_digitChar (by omega)
  have zero : Text.Hex.digit? '0' = some 0 := by decide
  have value : Text.Hex.value? ['0', '0', Nat.digitChar (code / 16), Nat.digitChar (code % 16)] =
      some code := by
    have joined : 16 * (code / 16) + code % 16 = code := Nat.div_add_mod code 16
    simp [Text.Hex.value?, zero, high, low, joined]
  have digits : fourDigits (.char '0' :: .char '0' :: .char (Nat.digitChar (code / 16)) ::
      .char (Nat.digitChar (code % 16)) :: rest) = .ok (code, rest) := by
    simp only [fourDigits, value]
  have noTrail : isTrail code = false := by simp [isTrail]; omega
  have noLead : isLead code = false := by simp [isLead]; omega
  simp [controlEscape, escape, codeEscape, digits, noTrail, noLead]

/-- However a character is written, it is read as itself. -/
theorem quotedRest_escaped (c : Char) (read : List Char) (rest : List Symbol) :
    quotedRest read true (ofChars (escaped c) ++ rest) = quotedRest (c :: read) true rest := by
  have letter (name meant : Char) (known : escape (.char name :: rest) = .ok (meant, rest)) :
      quotedRest read true (ofChars ['\\', name] ++ rest) = quotedRest (meant :: read) true rest := by
    simp only [Symbol.ofChars_cons, Symbol.ofChars_nil, List.cons_append, List.nil_append]
    rw [quotedRest]
    split
    · rename_i fault refused
      cases known.symm.trans refused
    · rename_i other others same
      cases known.symm.trans same
      rfl
  unfold escaped
  split
  · exact letter '"' '"' rfl
  · exact letter '\\' '\\' rfl
  · exact letter 'b' '\x08' rfl
  · exact letter 'f' '\x0c' rfl
  · exact letter 'n' '\n' rfl
  · exact letter 'r' '\r' rfl
  · exact letter 't' '\t' rfl
  · rename_i noQuote noBackslash _ _ _ _ _
    split
    · rename_i control
      have known := escape_controlEscape control rest
      rw [Char.ofNat_toNat] at known
      have split : ofChars (controlEscape c.toNat) ++ rest =
          .char '\\' :: (ofChars (controlEscape c.toNat).tail ++ rest) := rfl
      rw [split, quotedRest]
      split
      · rename_i fault refused
        cases known.symm.trans refused
      · rename_i other others same
        cases known.symm.trans same
        rfl
    · rename_i plain
      simp only [Symbol.ofChars_cons, Symbol.ofChars_nil, List.cons_append, List.nil_append]
      rw [quotedRest, if_neg plain]
      · exact noQuote
      · exact noBackslash

theorem quotedRest_flatMap_escaped (chars read : List Char) (rest : List Symbol) :
    quotedRest read true (ofChars (chars.flatMap escaped) ++ .char '"' :: rest) =
      .ok (String.ofList (read.reverse ++ chars), rest) := by
  induction chars generalizing read with
  | nil =>
    rw [List.flatMap_nil, Symbol.ofChars_nil, List.nil_append, List.append_nil, quotedRest, if_pos rfl]
  | cons c chars inductionHypothesis =>
    rw [List.flatMap_cons, Symbol.ofChars_append, List.append_assoc, quotedRest_escaped,
      inductionHypothesis, List.reverse_cons, List.append_assoc]
    rfl

theorem ofChars_quoted (text : String) :
    ofChars (quoted text) = .char '"' :: ofChars (quoted text).tail := rfl

/-- A text is read back behind its opening quote. -/
theorem quotedText_quoted (text : String) (rest : List Symbol) :
    quotedText (ofChars (quoted text).tail ++ rest) = .ok (text, rest) := by
  have opened : ofChars (quoted text).tail ++ rest =
      ofChars (text.toList.flatMap escaped) ++ .char '"' :: rest := by
    simp [quoted]
  rw [opened, quotedText, quotedRest_flatMap_escaped, List.reverse_nil, List.nil_append,
    String.ofList_toList]

end Json
end Dashboard
