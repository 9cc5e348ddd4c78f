import Dashboard.Text.Utf8

namespace Dashboard.Text.Utf8

theorem scalar?_toNat {least : Nat} {c : Char} (enough : least ≤ c.toNat) :
    scalar? least c.toNat = some c := by
  have valid : c.toNat.isValidChar := c.valid
  simp [scalar?, enough, valid]

/-- Every continuation byte carries the six bits it was made of. -/
theorem continuation?_ofNat {bits : Nat} (six : bits < 64) :
    continuation? (UInt8.ofNat (bits + 128)) = some bits := by
  have value : (UInt8.ofNat (bits + 128)).toNat = bits + 128 := by
    rw [UInt8.toNat_ofNat']
    omega
  have least : (0x80 : UInt8) ≤ UInt8.ofNat (bits + 128) := by
    rw [UInt8.le_iff_toNat_le, value]
    exact Nat.le_add_left 128 bits
  have below : UInt8.ofNat (bits + 128) < (0xc0 : UInt8) := by
    rw [UInt8.lt_iff_toNat_lt, value]
    change bits + 128 < 192
    omega
  rw [continuation?, if_pos ⟨least, below⟩, value, Nat.add_sub_cancel]

/-- A first byte carries its mark and the bits above those of the others. -/
theorem lead_ofNat (bits mark : Nat) (fits : bits + mark < 256) :
    (UInt8.ofNat (bits + mark)).toNat = bits + mark := by
  rw [UInt8.toNat_ofNat']
  omega

theorem decodeChar?_one {first : UInt8} (few : first.toNat < 0x80) (rest : List UInt8) :
    decodeChar? (first :: rest) = some (Char.ofNat first.toNat, 0) := by
  cases rest <;> simp [decodeChar?, few]

theorem decodeChar?_two {first second : UInt8} {low : Nat} {c : Char} (least : 0xc0 ≤ first.toNat)
    (most : first.toNat < 0xe0) (six : continuation? second = some low)
    (whole : scalar? 0x80 ((first.toNat - 0xc0) * 64 + low) = some c) (rest : List UInt8) :
    decodeChar? (first :: second :: rest) = some (c, 1) := by
  rw [decodeChar?, if_neg (by omega), if_neg (by omega), if_pos most]
  refine Option.bind_eq_some_iff.mpr ⟨low, six, ?_⟩
  exact Option.bind_eq_some_iff.mpr ⟨c, whole, rfl⟩

theorem decodeChar?_three {first second third : UInt8} {middle low : Nat} {c : Char}
    (least : 0xe0 ≤ first.toNat) (most : first.toNat < 0xf0)
    (six : continuation? second = some middle) (last : continuation? third = some low)
    (whole : scalar? 0x800 ((first.toNat - 0xe0) * 4096 + middle * 64 + low) = some c)
    (rest : List UInt8) :
    decodeChar? (first :: second :: third :: rest) = some (c, 2) := by
  rw [decodeChar?, if_neg (by omega), if_neg (by omega), if_neg (by omega), if_pos most]
  refine Option.bind_eq_some_iff.mpr ⟨middle, six, ?_⟩
  refine Option.bind_eq_some_iff.mpr ⟨low, last, ?_⟩
  exact Option.bind_eq_some_iff.mpr ⟨c, whole, rfl⟩

theorem decodeChar?_four {first second third fourth : UInt8} {high middle low : Nat} {c : Char}
    (least : 0xf0 ≤ first.toNat) (most : first.toNat < 0xf8)
    (six : continuation? second = some high) (next : continuation? third = some middle)
    (last : continuation? fourth = some low)
    (whole : scalar? 0x10000
      ((first.toNat - 0xf0) * 262144 + high * 4096 + middle * 64 + low) = some c)
    (rest : List UInt8) :
    decodeChar? (first :: second :: third :: fourth :: rest) = some (c, 3) := by
  rw [decodeChar?, if_neg (by omega), if_neg (by omega), if_neg (by omega), if_neg (by omega),
    if_pos most]
  -- not by simp: the kernel would compare the two sides of the bits by counting
  refine Option.bind_eq_some_iff.mpr ⟨high, six, ?_⟩
  refine Option.bind_eq_some_iff.mpr ⟨middle, next, ?_⟩
  refine Option.bind_eq_some_iff.mpr ⟨low, last, ?_⟩
  exact Option.bind_eq_some_iff.mpr ⟨c, whole, rfl⟩

/-- The bytes of a character are decoded whatever follows them. -/
theorem decodeChar?_encodeChar (c : Char) (rest : List UInt8) :
    decodeChar? (encodeChar c ++ rest) = some (c, (encodeChar c).length - 1) := by
  have whole (least : Nat) (enough : least ≤ c.toNat) : scalar? least c.toNat = some c :=
    scalar?_toNat enough
  have back : Char.ofNat c.toNat = c := Char.ofNat_toNat c
  have valid : c.toNat.isValidChar := c.valid
  simp only [Nat.isValidChar] at valid
  obtain ⟨code, same⟩ : ∃ code, c.toNat = code := ⟨_, rfl⟩
  have value : c.val.toNat = code := same
  simp only [same] at whole back valid
  simp only [encodeChar, String.utf8EncodeChar, value]
  split
  · rename_i one
    have lead : (UInt8.ofNat code).toNat = code := lead_ofNat code 0 (by omega)
    have few : (UInt8.ofNat code).toNat < 0x80 := by omega
    have read := decodeChar?_one few rest
    rwa [lead, back] at read
  · split
    · have lead := lead_ofNat (code / 64 % 32) 192 (by omega)
      apply decodeChar?_two
      · omega
      · omega
      · exact continuation?_ofNat (by omega)
      · rw [lead, show (code / 64 % 32 + 192 - 0xc0) * 64 + code % 64 = code by omega]
        exact whole 0x80 (by omega)
    · split
      · have lead := lead_ofNat (code / 4096 % 16) 224 (by omega)
        apply decodeChar?_three
        · omega
        · omega
        · exact continuation?_ofNat (by omega)
        · exact continuation?_ofNat (by omega)
        · rw [lead, show (code / 4096 % 16 + 224 - 0xe0) * 4096 + code / 64 % 64 * 64 +
            code % 64 = code by omega]
          exact whole 0x800 (by omega)
      · have lead := lead_ofNat (code / 262144 % 8) 240 (by omega)
        apply decodeChar?_four
        · omega
        · omega
        · exact continuation?_ofNat (by omega)
        · exact continuation?_ofNat (by omega)
        · exact continuation?_ofNat (by omega)
        · rw [lead, show (code / 262144 % 8 + 240 - 0xf0) * 262144 + code / 4096 % 64 * 4096 +
            code / 64 % 64 * 64 + code % 64 = code by omega]
          exact whole 0x10000 (by omega)

theorem decodeOnto?_flatMap_encodeChar (decoded text : List Char) :
    decodeOnto? decoded (text.flatMap encodeChar) = some (decoded.reverse ++ text) := by
  induction text generalizing decoded with
  | nil => simp [decodeOnto?]
  | cons c text inductionHypothesis =>
    have read := decodeChar?_encodeChar c (text.flatMap encodeChar)
    obtain ⟨first, others, bytes⟩ : ∃ first others, encodeChar c = first :: others :=
      List.exists_cons_of_ne_nil String.utf8EncodeChar_ne_nil
    rw [bytes, List.cons_append] at read
    rw [List.flatMap_cons, bytes, List.cons_append, decodeOnto?, read]
    simp [inductionHypothesis]

/-- The bytes of an array in its order, read from a place on. -/
theorem toList_loop (bytes : ByteArray) (place : Nat) (read : List UInt8) :
    ByteArray.toList.loop bytes place read = read.reverse ++ bytes.data.toList.drop place := by
  fun_induction ByteArray.toList.loop bytes place read with
  | case1 place read inside inductionHypothesis =>
    have within : place < bytes.data.toList.length := inside
    rw [inductionHypothesis, List.drop_eq_getElem_cons within]
    simp [ByteArray.get!, inside]
  | case2 place read outside =>
    have beyond : bytes.data.toList.length ≤ place := Nat.le_of_not_lt outside
    rw [List.drop_of_length_le beyond, List.append_nil]

theorem encode_eq_flatMap (text : String) : encode text = text.toList.flatMap encodeChar := by
  have bytes : text.toUTF8.data.toList = text.toList.flatMap encodeChar := by
    conv => lhs; rw [← String.ofList_toList (s := text)]
    rw [String.toUTF8, String.toByteArray_ofList, List.utf8Encode, List.toList_data_toByteArray]
    rfl
  rw [encode, ByteArray.toList, toList_loop, bytes]
  rfl

theorem decode?_encode (text : String) : decode? (encode text) = some text.toList := by
  rw [encode_eq_flatMap, decode?, decodeOnto?_flatMap_encodeChar]
  rfl

end Dashboard.Text.Utf8
