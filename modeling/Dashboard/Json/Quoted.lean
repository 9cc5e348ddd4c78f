import Dashboard.Json.Fault
import Dashboard.Text.Hex

namespace Dashboard.Json

/-- What stands for itself behind a backslash, or has a letter there. -/
def letterEscape? : Char → Option Char
  | '"' => some '"'
  | '\\' => some '\\'
  | '/' => some '/'
  | 'b' => some '\x08'
  | 'f' => some '\x0c'
  | 'n' => some '\n'
  | 'r' => some '\r'
  | 't' => some '\t'
  | _ => none

/-- The number that the next four bytes write in hexadecimal digits. -/
def fourDigits : Reader Nat := fun input =>
  match input with
  | .char first :: .char second :: .char third :: .char fourth :: rest =>
    match Text.Hex.value? [first, second, third, fourth] with
    | some code => .ok (code, rest)
    | none => .error (refusal input)
  | _ => .error (refusal input)
where
  refusal (input : List Symbol) : Fault :=
    let left := Symbol.bytesOf input
    if left < 4 then ⟨.endInString, some 0, []⟩ else ⟨.badEscape, some (left - 4), []⟩

def isLead (code : Nat) : Bool := 0xd800 ≤ code && code ≤ 0xdbff

def isTrail (code : Nat) : Bool := 0xdc00 ≤ code && code ≤ 0xdfff

def pairedChar (lead trail : Nat) : Char :=
  Char.ofNat (0x10000 + (lead - 0xd800) * 1024 + (trail - 0xdc00))

/-- Reads the trailing half that must follow a leading one. -/
def trailingHalf (lead : Nat) : Reader Char := fun input =>
  match input with
  | [] => .error (.before .endInString [])
  | .char '\\' :: rest =>
    match rest with
    | [] => .error (.before .endInString [])
    | .char 'u' :: digits =>
      match fourDigits digits with
      | .error fault => .error fault
      | .ok (trail, rest) =>
        if isTrail trail then .ok (pairedChar lead trail, rest)
        else .error (.before .loneSurrogate rest)
    | _ => .error (.inside .missingTrail rest)
  | _ => .error (.inside .missingTrail input)

def codeEscape : Reader Char := fun input =>
  match fourDigits input with
  | .error fault => .error fault
  | .ok (code, rest) =>
    if isTrail code then .error (.before .loneSurrogate rest)
    else if isLead code then trailingHalf code rest
    else .ok (Char.ofNat code, rest)

def escape : Reader Char := fun input =>
  match input with
  | [] => .error (.before .endInString [])
  | .char c :: rest =>
    if c = 'u' then codeEscape rest
    else match letterEscape? c with
      | some meant => .ok (meant, rest)
      | none => .error (.inside .badEscape input)
  | .stray _ :: _ => .error (.inside .badEscape input)

private theorem fourDigits_length {input rest : List Symbol} {code : Nat}
    (success : fourDigits input = .ok (code, rest)) : rest.length < input.length := by
  unfold fourDigits at success
  split at success
  · split at success
    · cases success
      simp only [List.length_cons]
      omega
    · cases success
  · cases success

private theorem trailingHalf_length {lead : Nat} {input rest : List Symbol} {c : Char}
    (success : trailingHalf lead input = .ok (c, rest)) : rest.length < input.length := by
  unfold trailingHalf at success
  split at success
  · cases success
  · split at success
    · cases success
    · split at success
      · cases success
      · rename_i read
        have := fourDigits_length read
        split at success
        · simp only [Except.ok.injEq, Prod.mk.injEq] at success
          obtain ⟨_, rfl⟩ := success
          simp only [List.length_cons]
          omega
        · cases success
    · cases success
  · cases success

private theorem codeEscape_length {input rest : List Symbol} {c : Char}
    (success : codeEscape input = .ok (c, rest)) : rest.length < input.length := by
  unfold codeEscape at success
  split at success
  · cases success
  · rename_i code middle read
    have shorter := fourDigits_length read
    by_cases trail : isTrail code
    · simp [trail] at success
    · by_cases lead : isLead code
      · simp only [trail, lead, if_true] at success
        have := trailingHalf_length success
        omega
      · simp only [trail, lead] at success
        cases success
        exact shorter

theorem escape_length {input rest : List Symbol} {c : Char}
    (success : escape input = .ok (c, rest)) : rest.length < input.length := by
  cases input with
  | nil => cases success
  | cons symbol more =>
    cases symbol with
    | stray byte => cases success
    | char letter =>
      by_cases code : letter = 'u'
      · simp only [escape, code, if_true] at success
        have := codeEscape_length success
        simp only [List.length_cons]
        omega
      · simp only [escape, code, if_false] at success
        split at success
        · cases success
          simp
        · cases success

/-- Reads a text behind its opening quote. What is already read is in reverse order; a byte that
belongs to no character is reported at the closing quote. -/
def quotedRest (read : List Char) (isClean : Bool) (input : List Symbol) :
    Except Fault (String × List Symbol) :=
  match input with
  | [] => .error (.before .endInString [])
  | .char '"' :: rest =>
    if isClean then .ok (String.ofList read.reverse, rest)
    else .error (.before .badCodePoint rest)
  | .char '\\' :: rest =>
    match _reading : escape rest with
    | .error fault => .error fault
    | .ok (c, rest) => quotedRest (c :: read) isClean rest
  | .char c :: rest =>
    if c.toNat < 32 then .error (.before .controlCharacter rest)
    else quotedRest (c :: read) isClean rest
  | .stray _ :: rest => quotedRest read false rest
termination_by input.length
decreasing_by
  all_goals simp only [List.length_cons]
  · have := escape_length _reading
    omega
  · omega
  · omega

def quotedText : Reader String := quotedRest [] true

def skipEscape (input : List Symbol) : Except Fault (List Symbol) :=
  match input with
  | [] => .error (.before .endInString [])
  | .char c :: rest =>
    if c = 'u' then (fourDigits rest).map Prod.snd
    else if (letterEscape? c).isSome then .ok rest
    else .error (.inside .badEscape input)
  | .stray _ :: _ => .error (.inside .badEscape input)

private theorem skipEscape_length {input rest : List Symbol}
    (success : skipEscape input = .ok rest) : rest.length < input.length := by
  cases input with
  | nil => cases success
  | cons symbol more =>
    cases symbol with
    | stray byte => cases success
    | char letter =>
      by_cases code : letter = 'u'
      · simp only [skipEscape, code, if_true] at success
        cases read : fourDigits more with
        | error fault => rw [read] at success; cases success
        | ok found =>
          rw [read] at success
          cases success
          have := fourDigits_length read
          simp only [List.length_cons]
          omega
      · simp only [skipEscape, code, if_false] at success
        split at success
        · cases success
          simp
        · cases success

def skipQuoted (input : List Symbol) : Except Fault (List Symbol) :=
  match input with
  | [] => .error (.before .endInString [])
  | .char '"' :: rest => .ok rest
  | .char '\\' :: rest =>
    match _reading : skipEscape rest with
    | .error fault => .error fault
    | .ok rest => skipQuoted rest
  | .char c :: rest =>
    if c.toNat < 32 then .error (.before .controlCharacter (.char c :: rest))
    else skipQuoted rest
  | .stray _ :: rest => skipQuoted rest
termination_by input.length
decreasing_by
  all_goals simp only [List.length_cons]
  · have := skipEscape_length _reading
    omega
  · omega
  · omega

end Dashboard.Json
