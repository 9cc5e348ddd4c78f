import Dashboard.Text.Blank
import Dashboard.Text.Hex

namespace Dashboard.Net

/-- An IP address: four octets, or eight groups of 16 bits. -/
inductive Address where
  | v4 (first second third fourth : Fin 256)
  | v6 (groups : List (Fin 65536)) (eight : groups.length = 8)
deriving DecidableEq

namespace Address

/-- The value of a decimal octet of one to three digits without a leading zero. -/
def octet? (text : List Char) : Option (Fin 256) :=
  if text.isEmpty || text.length > 3 || !text.all Char.isDigit then none
  else if text.length > 1 && text.head? == some '0' then none
  else
    let value := text.foldl (fun value digit => 10 * value + (digit.toNat - 48)) 0
    if bound : value < 256 then some ⟨value, bound⟩ else none

def octets? (text : List Char) : Option (Fin 256 × Fin 256 × Fin 256 × Fin 256) :=
  match Text.fields '.' text with
  | [first, second, third, fourth] => do
    return (← octet? first, ← octet? second, ← octet? third, ← octet? fourth)
  | _ => none

/-- The value of a group of one to four hexadecimal digits. -/
def group? (text : List Char) : Option (Fin 65536) :=
  if text.isEmpty || text.length > 4 then none
  else do
    let value ← Text.Hex.value? text
    if bound : value < 65536 then some ⟨value, bound⟩ else none

def joinOctets (high low : Fin 256) : Fin 65536 :=
  ⟨256 * high.val + low.val, by omega⟩

/-- Groups joined by colons, the last two of which may be written as four octets. -/
def groups? : List (List Char) → Option (List (Fin 65536))
  | [] => none
  | [last] =>
    match octets? last with
    | some (first, second, third, fourth) => some [joinOctets first second, joinOctets third fourth]
    | none => (group? last).map ([·])
  | field :: rest => do
    let first ← group? field
    let others ← groups? rest
    return first :: others

/-- The texts before and after the first double colon. -/
def cutAtGap : List Char → Option (List Char × List Char)
  | ':' :: ':' :: rest => some ([], rest)
  | c :: rest => (cutAtGap rest).map fun (before, after) => (c :: before, after)
  | [] => none

/-- Eight groups, of which a double colon stands for one or more zeros. -/
def sixGroups? (text : List Char) : Option (List (Fin 65536)) :=
  match cutAtGap text with
  | none => groups? (Text.fields ':' text)
  | some (before, after) => do
    let head ← if before.isEmpty then some [] else (Text.fields ':' before).mapM group?
    let tail ← if after.isEmpty then some [] else groups? (Text.fields ':' after)
    if head.length + tail.length ≤ 7 then
      return head ++ List.replicate (8 - head.length - tail.length) 0 ++ tail
    else none

def parse? (text : List Char) : Option Address :=
  match octets? text with
  | some (first, second, third, fourth) => some (.v4 first second third fourth)
  | none =>
    match sixGroups? text with
    | some groups => if eight : groups.length = 8 then some (.v6 groups eight) else none
    | none => none

def octetText (octet : Fin 256) : List Char := Nat.toDigits 10 octet.val

def octetsText (first second third fourth : Fin 256) : List Char :=
  octetText first ++ '.' :: octetText second ++ '.' :: octetText third ++ '.' :: octetText fourth

def groupText (group : Fin 65536) : List Char := Nat.toDigits 16 group.val

def groupsText : List (Fin 65536) → List Char
  | [] => []
  | [group] => groupText group
  | group :: rest => groupText group ++ ':' :: groupsText rest

def leadingZeros : List (Fin 65536) → Nat
  | [] => 0
  | group :: rest => if group = 0 then leadingZeros rest + 1 else 0

/-- The start and length of the first longest run of zero groups, counted from `start`. -/
def longestZeros (start : Nat) : List (Fin 65536) → Nat × Nat
  | [] => (start, 0)
  | group :: rest =>
    let here := leadingZeros (group :: rest)
    let later := longestZeros (start + 1) rest
    if here ≥ later.2 then (start, here) else later

/-- The octets of an address that embeds an older one behind five zero groups and one of ones. -/
def mappedOctets? : List (Fin 65536) → Option (Fin 256 × Fin 256 × Fin 256 × Fin 256)
  | [0, 0, 0, 0, 0, 65535, high, low] =>
    some (⟨high.val / 256, by omega⟩, ⟨high.val % 256, by omega⟩, ⟨low.val / 256, by omega⟩,
      ⟨low.val % 256, by omega⟩)
  | _ => none

def sixText (groups : List (Fin 65536)) : List Char :=
  match mappedOctets? groups with
  | some (first, second, third, fourth) => "::ffff:".toList ++ octetsText first second third fourth
  | none =>
    let (start, length) := longestZeros 0 groups
    if length > 1 then
      groupsText (groups.take start) ++ ':' :: ':' :: groupsText (groups.drop (start + length))
    else groupsText groups

/-- The canonical text of an address. -/
def text : Address → List Char
  | .v4 first second third fourth => octetsText first second third fourth
  | .v6 groups _ => sixText groups

end Address
end Dashboard.Net
