import Dashboard.Net.Address
import Dashboard.Proofs.Json.Numeral
import Dashboard.Proofs.Text.Digits
import Mathlib.Data.List.Forall2

/-! The texts that spell an IP address. There is one for each older address. Of a newer one the digits
may be of either case, groups may begin with zeros, the last two groups may be given as four octets, and
one or more zero groups may be left out at one place; all these spellings are read, and nothing else
is. -/

namespace Dashboard

theorem Text.fields_eq_splitOn (separator : Char) (text : List Char) :
    fields separator text = text.splitOn separator := by
  induction text with
  | nil => rfl
  | cons c rest inductionHypothesis =>
    rw [List.splitOn_cons_eq_if_modifyHead, fields, inductionHypothesis]
    by_cases same : c = separator
    · simp [same]
    · simp only [same, if_false, beq_iff_eq]
      split <;> simp_all

theorem Text.mem_intercalate {fields : List (List Char)} {separator c : Char}
    (present : c ∈ [separator].intercalate fields) : c = separator ∨ ∃ field ∈ fields, c ∈ field := by
  induction fields with
  | nil => simp at present
  | cons field rest inductionHypothesis =>
    cases rest with
    | nil => exact .inr ⟨field, by simpa using present⟩
    | cons next more =>
      rw [List.intercalate_cons_cons, List.append_assoc, List.mem_append, List.mem_append,
        List.mem_singleton] at present
      obtain inField | same | behind := present
      · exact .inr ⟨field, List.mem_cons_self, inField⟩
      · exact .inl same
      · exact (inductionHypothesis behind).imp_right fun ⟨other, member, inOther⟩ =>
          ⟨other, List.mem_cons_of_mem field member, inOther⟩

namespace Net.Address

variable {text : List Char} {fields : List (List Char)} {c : Char} {first second third fourth : Fin 256}
  {group : Fin 65536} {groups : List (Fin 65536)} {address : Address}

/-- An octet is read off one to three decimal digits, the first of which is a zero only if it stands
alone. -/
theorem octet?_spec (text : List Char) (octet : Fin 256) :
    octet? text = some octet ↔ (text ≠ [] ∧ text.length ≤ 3 ∧ ∀ c ∈ text, c.isDigit = true) ∧
      (text.length ≤ 1 ∨ text.head? ≠ some '0') ∧ Nat.ofDigitChars 10 text 0 = octet.val := by
  have value : text.foldl (fun value digit => 10 * value + (digit.toNat - 48)) 0 =
      Nat.ofDigitChars 10 text 0 := Nat.ofDigitChars_eq_foldl.symm
  rw [octet?]
  split
  case isTrue ill =>
    simp only [Bool.or_eq_true, List.isEmpty_iff, decide_eq_true_eq, Bool.not_eq_true',
      List.all_eq_false] at ill
    refine iff_of_false nofun ?_
    rintro ⟨⟨present, short, decimal⟩, -⟩
    obtain (missing | long) | ⟨c, member, other⟩ := ill
    · exact present missing
    · omega
    · exact other (decimal c member)
  case isFalse good =>
    simp only [Bool.or_eq_true, List.isEmpty_iff, decide_eq_true_eq, Bool.not_eq_true',
      Bool.not_eq_false, not_or, List.all_eq_true, Nat.not_lt] at good
    split
    case isTrue zero =>
      simp only [Bool.and_eq_true, decide_eq_true_eq, beq_iff_eq] at zero
      refine iff_of_false nofun ?_
      rintro ⟨-, short | other, -⟩
      · omega
      · exact other zero.2
    case isFalse free =>
      simp only [Bool.and_eq_true, decide_eq_true_eq, beq_iff_eq, not_and_or, Nat.not_lt] at free
      simp only [value]
      split
      case isTrue bound =>
        obtain ⟨⟨present, short⟩, decimal⟩ := good
        constructor
        · intro found
          cases found
          exact ⟨⟨present, short, decimal⟩, free, rfl⟩
        · rintro ⟨-, -, same⟩
          exact congrArg some (Fin.ext same)
      case isFalse big =>
        refine iff_of_false nofun ?_
        rintro ⟨-, -, same⟩
        omega

theorem octet?_eq_some_iff {octet : Fin 256} : octet? text = some octet ↔ text = octetText octet := by
  rw [octet?_spec]
  constructor
  · rintro ⟨⟨present, -, decimal⟩, leading, value⟩
    rw [octetText, ← value, Text.toDigits_ofDigitChars present decimal leading]
  · rintro rfl
    refine ⟨⟨Nat.toDigits_ne_nil, ?_, fun _ => Json.toDigits_isDigit⟩, ?_, Nat.ofDigitChars_ten_toDigits⟩
    · exact (Nat.length_toDigits_le_iff (by decide) (by decide)).mpr (by omega)
    · by_cases zero : octet.val = 0
      · exact .inl (by rw [octetText, zero]; decide)
      · exact .inr (mt (Json.eq_zero_of_head_toDigits octet.val) zero)

theorem mem_octetText {octet : Fin 256} (present : c ∈ octetText octet) : c.isDigit = true :=
  Json.toDigits_isDigit present

theorem octetsText_eq (first second third fourth : Fin 256) :
    octetsText first second third fourth =
      ['.'].intercalate [octetText first, octetText second, octetText third, octetText fourth] := by
  simp [octetsText, List.intercalate, List.intersperse]

theorem mem_octetsText (present : c ∈ octetsText first second third fourth) :
    c.isDigit = true ∨ c = '.' := by
  simp only [octetsText, List.append_assoc, List.cons_append, List.mem_append, List.mem_cons] at present
  obtain inFirst | rfl | inSecond | rfl | inThird | rfl | inFourth := present
  · exact .inl (mem_octetText inFirst)
  · exact .inr rfl
  · exact .inl (mem_octetText inSecond)
  · exact .inr rfl
  · exact .inl (mem_octetText inThird)
  · exact .inr rfl
  · exact .inl (mem_octetText inFourth)

theorem octets?_eq_some_iff :
    octets? text = some (first, second, third, fourth) ↔
      text = octetsText first second third fourth := by
  rw [octets?, Text.fields_eq_splitOn, octetsText_eq]
  constructor
  · intro read
    split at read
    case h_1 a b c d fields =>
      simp only [Option.bind_eq_bind, Option.bind_eq_some_iff, Option.pure_def, Option.some.injEq,
        Prod.mk.injEq, octet?_eq_some_iff] at read
      obtain ⟨_, rfl, _, rfl, _, rfl, _, rfl, rfl, rfl, rfl, rfl⟩ := read
      rw [← fields, List.intercalate_splitOn]
    case h_2 => cases read
  · rintro rfl
    have read (octet : Fin 256) : octet? (octetText octet) = some octet := octet?_eq_some_iff.mpr rfl
    rw [List.splitOn_intercalate '.' _ (by simp)]
    · simp [read]
    · intro field member point
      simp only [List.mem_cons, List.not_mem_nil, or_false] at member
      obtain rfl | rfl | rfl | rfl := member <;> exact absurd (mem_octetText point) (by decide)

/-- One to four hexadecimal digits in either case, whose number is the group. -/
def SpellsGroup (text : List Char) (group : Fin 65536) : Prop :=
  ∃ digits, (digits ≠ [] ∧ digits.length ≤ 4 ∧ ∀ digit ∈ digits, digit < 16) ∧
    text.map Char.toLower = digits.map Nat.digitChar ∧ Text.positional 16 digits = group.val

theorem group?_eq_some_iff : group? text = some group ↔ SpellsGroup text group := by
  have sizes {digits : List Nat} (lower : text.map Char.toLower = digits.map Nat.digitChar) :
      text.length = digits.length := by simpa using congrArg List.length lower
  rw [group?]
  split
  case isTrue ill =>
    refine iff_of_false nofun ?_
    rintro ⟨digits, ⟨present, short, -⟩, lower, -⟩
    have := List.length_pos_iff.mpr present
    have := sizes lower
    simp only [Bool.or_eq_true, List.isEmpty_iff, decide_eq_true_eq, ← List.length_eq_zero_iff] at ill
    omega
  case isFalse good =>
    simp only [Bool.or_eq_true, List.isEmpty_iff, decide_eq_true_eq, not_or, Nat.not_lt] at good
    simp only [Option.bind_eq_bind, Option.bind_eq_some_iff, Text.Hex.value?_eq_some_iff]
    constructor
    · rintro ⟨value, ⟨digits, below, lower, rfl⟩, fits⟩
      split at fits
      case isTrue bound =>
        cases fits
        have size := sizes lower
        refine ⟨digits, ⟨?_, by omega, below⟩, lower, rfl⟩
        rintro rfl
        exact good.1 (List.length_eq_zero_iff.mp size)
      case isFalse => cases fits
    · rintro ⟨digits, ⟨-, -, below⟩, lower, value⟩
      exact ⟨group.val, ⟨digits, below, lower, value⟩, by simp⟩

theorem spellsGroup_groupText (group : Fin 65536) : SpellsGroup (groupText group) group := by
  obtain ⟨digits, written, below, value⟩ := Text.exists_positional (by decide : 1 < 16) group.val
  have size : (Nat.toDigits 16 group.val).length = digits.length := by
    rw [written, List.length_map]
  refine ⟨digits, ⟨?_, ?_, below⟩, ?_, value⟩
  · rintro rfl
    exact Nat.toDigits_ne_nil written
  · rw [← size]
    exact (Nat.length_toDigits_le_iff (by decide) (by decide)).mpr (by omega)
  · rw [groupText, written, List.map_map]
    exact List.map_congr_left fun digit member =>
      (Text.Hex.digit?_eq_some_iff.mp (Text.Hex.digit?_digitChar (below digit member))).2

/-- Fields that spell groups one by one; the last one may be four octets, which spell two groups. -/
inductive SpellsGroups : List (List Char) → List (Fin 65536) → Prop
  | none : SpellsGroups [] []
  | octets (first second third fourth : Fin 256) :
    SpellsGroups [octetsText first second third fourth]
      [joinOctets first second, joinOctets third fourth]
  | more {text : List Char} {group : Fin 65536} {fields : List (List Char)}
    {groups : List (Fin 65536)} (spells : SpellsGroup text group) (others : SpellsGroups fields groups) :
    SpellsGroups (text :: fields) (group :: groups)

theorem SpellsGroup.digit (spells : SpellsGroup text group) (present : c ∈ text) :
    (Text.Hex.digit? c).isSome := by
  obtain ⟨digits, ⟨-, -, below⟩, lower, -⟩ := spells
  have member : c.toLower ∈ digits.map Nat.digitChar := lower ▸ List.mem_map_of_mem present
  obtain ⟨digit, among, same⟩ := List.mem_map.mp member
  exact Option.isSome_of_eq_some (Text.Hex.digit?_eq_some_iff.mpr ⟨below digit among, same.symm⟩)

theorem SpellsGroup.ne_nil (spells : SpellsGroup text group) : text ≠ [] := by
  obtain ⟨digits, ⟨present, -, -⟩, lower, -⟩ := spells
  rintro rfl
  exact present (List.map_eq_nil_iff.mp lower.symm)

theorem octets?_eq_none (spells : SpellsGroup text group) : octets? text = none := by
  cases read : octets? text with
  | none => rfl
  | some octets =>
    obtain ⟨first, second, third, fourth⟩ := octets
    have point : '.' ∈ text := by simp [octets?_eq_some_iff.mp read, octetsText]
    exact absurd (spells.digit point) (by decide)

theorem groups?_eq_some_iff :
    groups? fields = some groups ↔ fields ≠ [] ∧ SpellsGroups fields groups := by
  induction fields generalizing groups with
  | nil => simp [groups?]
  | cons field rest inductionHypothesis =>
    cases rest with
    | nil =>
      rw [groups?]
      constructor
      · intro read
        split at read
        case h_1 first second third fourth isOctets =>
          cases read
          rw [octets?_eq_some_iff.mp isOctets]
          exact ⟨List.cons_ne_nil _ _, .octets first second third fourth⟩
        case h_2 =>
          obtain ⟨group, isGroup, rfl⟩ := Option.map_eq_some_iff.mp read
          exact ⟨List.cons_ne_nil _ _, .more (group?_eq_some_iff.mp isGroup) .none⟩
      · rintro ⟨-, spells⟩
        cases spells with
        | octets first second third fourth => rw [octets?_eq_some_iff.mpr rfl]
        | more spells others =>
          cases others
          rw [octets?_eq_none spells, group?_eq_some_iff.mpr spells]
          rfl
    | cons next more =>
      simp only [groups?, Option.bind_eq_bind, Option.pure_def]
      constructor
      · intro read
        simp only [Option.bind_eq_some_iff, Option.some.injEq] at read
        obtain ⟨group, isGroup, others, areGroups, rfl⟩ := read
        exact ⟨List.cons_ne_nil _ _,
          .more (group?_eq_some_iff.mp isGroup) (inductionHypothesis.mp areGroups).2⟩
      · rintro ⟨-, spells⟩
        cases spells with
        | more spells others =>
          rw [group?_eq_some_iff.mpr spells, inductionHypothesis.mpr ⟨List.cons_ne_nil _ _, others⟩]
          rfl

theorem mapM_group?_eq_some_iff :
    fields.mapM group? = some groups ↔ List.Forall₂ SpellsGroup fields groups := by
  induction fields generalizing groups with
  | nil => simp [eq_comm]
  | cons field rest inductionHypothesis =>
    simp only [List.mapM_cons, Option.bind_eq_bind, Option.pure_def, Option.bind_eq_some_iff,
      Option.some.injEq, group?_eq_some_iff, inductionHypothesis, List.forall₂_cons_left_iff]
    constructor
    · rintro ⟨group, spells, others, spellOthers, rfl⟩
      exact ⟨group, others, spells, spellOthers, rfl⟩
    · rintro ⟨group, others, spells, spellOthers, rfl⟩
      exact ⟨group, spells, others, spellOthers, rfl⟩

/-- Fields that colons can join so that the joint text shows them. -/
def AreJoinable (fields : List (List Char)) : Prop := ∀ field ∈ fields, field ≠ [] ∧ ':' ∉ field

theorem SpellsGroup.joinable (spells : SpellsGroup text group) : text ≠ [] ∧ ':' ∉ text :=
  ⟨spells.ne_nil, fun colon => absurd (spells.digit colon) (by decide)⟩

theorem octetsText_joinable (first second third fourth : Fin 256) :
    octetsText first second third fourth ≠ [] ∧ ':' ∉ octetsText first second third fourth :=
  ⟨by simp [octetsText], fun colon => absurd (mem_octetsText colon) (by decide)⟩

theorem SpellsGroups.areJoinable (spells : SpellsGroups fields groups) : AreJoinable fields := by
  induction spells with
  | none => exact nofun
  | octets first second third fourth => exact List.forall_mem_singleton.mpr (octetsText_joinable ..)
  | more first others inductionHypothesis =>
    exact List.forall_mem_cons.mpr ⟨first.joinable, inductionHypothesis⟩

theorem SpellsGroups.of_forall₂ (spells : List.Forall₂ SpellsGroup fields groups) :
    SpellsGroups fields groups := by
  induction spells with
  | nil => exact .none
  | cons first _ inductionHypothesis => exact .more first inductionHypothesis

theorem AreJoinable.fields_intercalate (joinable : AreJoinable fields) (present : fields ≠ []) :
    Text.fields ':' ([':'].intercalate fields) = fields := by
  rw [Text.fields_eq_splitOn,
    List.splitOn_intercalate ':' (fun field member => (joinable field member).2) present]

theorem AreJoinable.intercalate_eq_nil_iff (joinable : AreJoinable fields) :
    [':'].intercalate fields = [] ↔ fields = [] := by
  cases fields with
  | nil => simp
  | cons field rest =>
    have present : field ≠ [] := (joinable field List.mem_cons_self).1
    cases rest with
    | nil => simpa using present
    | cons next more => simp [List.intercalate_cons_cons]

/-- A text is read field by field, and an empty one has no field. -/
theorem readJoined_iff {read : List (List Char) → Option (List (Fin 65536))}
    (spells : List (List Char) → List (Fin 65536) → Prop)
    (nothing : ∀ groups, spells [] groups ↔ groups = [])
    (something : ∀ fields groups, fields ≠ [] → (read fields = some groups ↔ spells fields groups))
    (joinable : ∀ fields groups, spells fields groups → AreJoinable fields)
    (text : List Char) (groups : List (Fin 65536)) :
    (if text.isEmpty then some [] else read (Text.fields ':' text)) = some groups ↔
      ∃ fields, text = [':'].intercalate fields ∧ spells fields groups := by
  constructor
  · intro found
    split at found
    case isTrue blank =>
      cases found
      exact ⟨[], by simpa using blank, (nothing []).mpr rfl⟩
    case isFalse =>
      refine ⟨Text.fields ':' text, ?_, (something _ _ (Text.fields_ne_nil ':' text)).mp found⟩
      rw [Text.fields_eq_splitOn, List.intercalate_splitOn]
  · rintro ⟨fields, rfl, spelled⟩
    have clear := joinable fields groups spelled
    by_cases noFields : fields = []
    · subst noFields
      simp [(nothing groups).mp spelled]
    · rw [if_neg (by rwa [List.isEmpty_iff, clear.intercalate_eq_nil_iff]),
        clear.fields_intercalate noFields, something fields groups noFields]
      exact spelled

theorem cutAtGap_cons {rest : List Char} (apart : c ≠ ':' ∨ rest.head? ≠ some ':') :
    cutAtGap (c :: rest) = (cutAtGap rest).map fun (before, after) => (c :: before, after) := by
  rw [cutAtGap]
  rintro more rfl rfl
  obtain other | other := apart
  · exact other rfl
  · exact other rfl

theorem cutAtGap_append {front : List Char} (free : ':' ∉ front) (rest : List Char) :
    cutAtGap (front ++ rest) = (cutAtGap rest).map fun (before, after) => (front ++ before, after) := by
  induction front with
  | nil => simp
  | cons c front inductionHypothesis =>
    simp only [List.mem_cons, not_or] at free
    obtain ⟨other, others⟩ := free
    rw [List.cons_append, cutAtGap_cons (.inl (Ne.symm other)), inductionHypothesis others,
      Option.map_map]
    rfl

theorem AreJoinable.head?_ne {field : List Char} {others : List (List Char)}
    (joinable : AreJoinable (field :: others)) (rest : List Char) :
    ([':'].intercalate (field :: others) ++ rest).head? ≠ some ':' := by
  obtain ⟨present, free⟩ := joinable field List.mem_cons_self
  obtain ⟨c, more, rfl⟩ := List.exists_cons_of_ne_nil present
  have other : c ≠ ':' := fun same => free (same ▸ List.mem_cons_self)
  cases others with
  | nil => simpa using other
  | cons next more => simpa [List.intercalate_cons_cons] using other

/-- A gap lies behind fields joined by colons, not among them. -/
theorem AreJoinable.cutAtGap_intercalate (joinable : AreJoinable fields) (rest : List Char) :
    cutAtGap ([':'].intercalate fields ++ rest) =
      (cutAtGap rest).map fun (before, after) => ([':'].intercalate fields ++ before, after) := by
  induction fields with
  | nil => simp
  | cons field others inductionHypothesis =>
    have joinableOthers : AreJoinable others := (List.forall_mem_cons.mp joinable).2
    have free : ':' ∉ field := (joinable field List.mem_cons_self).2
    cases others with
    | nil => simp [cutAtGap_append free]
    | cons next more =>
      rw [List.intercalate_cons_cons, List.append_assoc, List.append_assoc, cutAtGap_append free,
        List.singleton_append, cutAtGap_cons (.inr (joinableOthers.head?_ne rest)),
        inductionHypothesis joinableOthers, Option.map_map, Option.map_map]
      congr 1
      funext pair
      simp

theorem eq_of_cutAtGap {text before after : List Char} (cut : cutAtGap text = some (before, after)) :
    text = before ++ ':' :: ':' :: after := by
  induction text using cutAtGap.induct generalizing before with
  | case1 rest => cases cut; rfl
  | case2 c rest other inductionHypothesis =>
    rw [cutAtGap] at cut
    · obtain ⟨⟨front, back⟩, cutRest, same⟩ := Option.map_eq_some_iff.mp cut
      cases same
      rw [inductionHypothesis cutRest]
      rfl
    · exact other
  | case3 => cases cut

/-- The text spells the address: as four octets, as eight groups, or as fewer groups with a double colon
where groups of zero, one at least, have been left out. -/
inductive Spells : List Char → Address → Prop
  | octets (first second third fourth : Fin 256) :
    Spells (octetsText first second third fourth) (.v4 first second third fourth)
  | groups {fields : List (List Char)} {groups : List (Fin 65536)} (eight : groups.length = 8)
    (spells : SpellsGroups fields groups) : Spells ([':'].intercalate fields) (.v6 groups eight)
  | gap {before after : List (List Char)} {head tail : List (Fin 65536)}
    (left : List.Forall₂ SpellsGroup before head) (right : SpellsGroups after tail)
    (short : head.length + tail.length ≤ 7)
    (eight : (head ++ List.replicate (8 - head.length - tail.length) 0 ++ tail).length = 8) :
    Spells ([':'].intercalate before ++ ':' :: ':' :: [':'].intercalate after) (.v6 _ eight)

theorem sixGroups?_of_cut {text before after : List Char}
    (cut : cutAtGap text = some (before, after)) :
    sixGroups? text =
      (if before.isEmpty then some [] else (Text.fields ':' before).mapM group?).bind fun head =>
        (if after.isEmpty then some [] else groups? (Text.fields ':' after)).bind fun tail =>
          if head.length + tail.length ≤ 7 then
            some (head ++ List.replicate (8 - head.length - tail.length) 0 ++ tail)
          else none := by
  rw [sixGroups?, cut]
  simp only
  split <;> split <;> rfl

theorem readHead_iff (text : List Char) (groups : List (Fin 65536)) :
    (if text.isEmpty then some [] else (Text.fields ':' text).mapM group?) = some groups ↔
      ∃ fields, text = [':'].intercalate fields ∧ List.Forall₂ SpellsGroup fields groups :=
  readJoined_iff (List.Forall₂ SpellsGroup) (by simp) (fun _ _ _ => mapM_group?_eq_some_iff)
    (fun _ _ spells => (SpellsGroups.of_forall₂ spells).areJoinable) text groups

theorem readTail_iff (text : List Char) (groups : List (Fin 65536)) :
    (if text.isEmpty then some [] else groups? (Text.fields ':' text)) = some groups ↔
      ∃ fields, text = [':'].intercalate fields ∧ SpellsGroups fields groups := by
  refine readJoined_iff SpellsGroups ?_ ?_ (fun _ _ => SpellsGroups.areJoinable) text groups
  · intro groups
    constructor
    · intro spells
      cases spells
      rfl
    · rintro rfl
      exact .none
  · intro fields groups present
    exact groups?_eq_some_iff.trans (and_iff_right present)

theorem spells_of_sixGroups? (eight : groups.length = 8) (read : sixGroups? text = some groups) :
    Spells text (.v6 groups eight) := by
  cases cut : cutAtGap text with
  | none =>
    rw [sixGroups?, cut] at read
    have whole : [':'].intercalate (Text.fields ':' text) = text := by
      rw [Text.fields_eq_splitOn, List.intercalate_splitOn]
    rw [← whole]
    exact .groups eight (groups?_eq_some_iff.mp read).2
  | some halves =>
    obtain ⟨before, after⟩ := halves
    rw [sixGroups?_of_cut cut] at read
    obtain ⟨head, isHead, readTail⟩ := Option.bind_eq_some_iff.mp read
    obtain ⟨tail, isTail, joined⟩ := Option.bind_eq_some_iff.mp readTail
    obtain ⟨left, rfl, spellsHead⟩ := (readHead_iff before head).mp isHead
    obtain ⟨right, rfl, spellsTail⟩ := (readTail_iff after tail).mp isTail
    rw [eq_of_cutAtGap cut]
    by_cases short : head.length + tail.length ≤ 7
    · rw [if_pos short] at joined
      cases joined
      exact .gap spellsHead spellsTail short eight
    · rw [if_neg short] at joined
      cases joined

theorem sixGroups?_intercalate (spells : SpellsGroups fields groups) (present : fields ≠ []) :
    sixGroups? ([':'].intercalate fields) = some groups := by
  have cut : cutAtGap ([':'].intercalate fields) = none := by
    simpa [cutAtGap] using spells.areJoinable.cutAtGap_intercalate []
  rw [sixGroups?, cut]
  simp only
  rw [spells.areJoinable.fields_intercalate present, groups?_eq_some_iff]
  exact ⟨present, spells⟩

theorem sixGroups?_gap {before after : List (List Char)} {head tail : List (Fin 65536)}
    (left : List.Forall₂ SpellsGroup before head) (right : SpellsGroups after tail)
    (short : head.length + tail.length ≤ 7) :
    sixGroups? ([':'].intercalate before ++ ':' :: ':' :: [':'].intercalate after) =
      some (head ++ List.replicate (8 - head.length - tail.length) 0 ++ tail) := by
  have cut : cutAtGap ([':'].intercalate before ++ ':' :: ':' :: [':'].intercalate after) =
      some ([':'].intercalate before, [':'].intercalate after) := by
    simpa [cutAtGap] using (SpellsGroups.of_forall₂ left).areJoinable.cutAtGap_intercalate
      (':' :: ':' :: [':'].intercalate after)
  rw [sixGroups?_of_cut cut, (readHead_iff _ head).mpr ⟨before, rfl, left⟩,
    (readTail_iff _ tail).mpr ⟨after, rfl, right⟩]
  exact if_pos short

theorem sixGroups?_of_spells {eight : groups.length = 8} (spells : Spells text (.v6 groups eight)) :
    sixGroups? text = some groups := by
  generalize whole : Address.v6 groups eight = address at spells
  cases spells with
  | octets first second third fourth => cases whole
  | groups _ spells =>
    cases whole
    refine sixGroups?_intercalate spells ?_
    rintro rfl
    cases spells
    cases eight
  | gap left right short =>
    cases whole
    exact sixGroups?_gap left right short

/-- Eight groups are never spelled without a colon, nor four octets with one. -/
theorem octets?_eq_none_of_spells {eight : groups.length = 8}
    (spells : Spells text (.v6 groups eight)) : octets? text = none := by
  have colon : ':' ∈ text := by
    generalize whole : Address.v6 groups eight = address at spells
    cases spells with
    | octets first second third fourth => cases whole
    | @groups fields _ _ spells =>
      cases whole
      cases spells with
      | none => cases eight
      | octets => cases eight
      | more spells others =>
        cases others with
        | none => cases eight
        | octets => cases eight
        | more => simp [List.intercalate_cons_cons]
    | gap => simp
  cases read : octets? text with
  | none => rfl
  | some octets =>
    obtain ⟨first, second, third, fourth⟩ := octets
    rw [octets?_eq_some_iff.mp read] at colon
    exact absurd (mem_octetsText colon) (by decide)

/-- A text is read as the address that it spells, and as nothing if it spells none. -/
theorem parse?_eq_some_iff : parse? text = some address ↔ Spells text address := by
  constructor
  · intro read
    rw [parse?] at read
    split at read
    case h_1 first second third fourth isOctets =>
      cases read
      rw [octets?_eq_some_iff.mp isOctets]
      exact .octets first second third fourth
    case h_2 =>
      split at read
      case h_1 groups isGroups =>
        split at read
        case isTrue eight =>
          cases read
          exact spells_of_sixGroups? eight isGroups
        case isFalse => cases read
      case h_2 => cases read
  · intro spells
    cases address with
    | v4 first second third fourth =>
      cases spells
      rw [parse?, octets?_eq_some_iff.mpr rfl]
    | v6 groups eight =>
      rw [parse?, octets?_eq_none_of_spells spells, sixGroups?_of_spells spells]
      exact dif_pos eight

/-- A hexadecimal digit, a point or a colon. -/
def IsSpellingChar (c : Char) : Prop := (Text.Hex.digit? c).isSome ∨ c = '.' ∨ c = ':'

theorem isSpellingChar_octetsText (present : c ∈ octetsText first second third fourth) :
    IsSpellingChar c :=
  (mem_octetsText present).imp Text.Hex.isSome_digit?_of_isDigit .inl

theorem SpellsGroups.isSpellingChar (spells : SpellsGroups fields groups) {field : List Char}
    (member : field ∈ fields) (present : c ∈ field) : IsSpellingChar c := by
  induction spells with
  | none => cases member
  | octets first second third fourth =>
    obtain rfl := List.mem_singleton.mp member
    exact isSpellingChar_octetsText present
  | more first _ inductionHypothesis =>
    obtain rfl | behind := List.mem_cons.mp member
    · exact .inl (first.digit present)
    · exact inductionHypothesis behind

theorem SpellsGroups.isSpellingChar_intercalate (spells : SpellsGroups fields groups)
    (present : c ∈ [':'].intercalate fields) : IsSpellingChar c := by
  obtain rfl | ⟨field, member, inField⟩ := Text.mem_intercalate present
  · exact .inr (.inr rfl)
  · exact spells.isSpellingChar member inField

theorem Spells.isSpellingChar (spells : Spells text address) (present : c ∈ text) :
    IsSpellingChar c := by
  cases spells with
  | octets first second third fourth => exact isSpellingChar_octetsText present
  | groups _ spells => exact spells.isSpellingChar_intercalate present
  | gap left right short =>
    simp only [List.mem_append, List.mem_cons] at present
    obtain inHead | rfl | rfl | inTail := present
    · exact (SpellsGroups.of_forall₂ left).isSpellingChar_intercalate inHead
    · exact .inr (.inr rfl)
    · exact .inr (.inr rfl)
    · exact right.isSpellingChar_intercalate inTail

theorem IsSpellingChar.not_isBlank (spelling : IsSpellingChar c) : Text.isBlank c = false := by
  obtain digit | rfl | rfl := spelling
  · obtain ⟨value, read⟩ := Option.isSome_iff_exists.mp digit
    have := Text.Hex.digit?_range read
    simp only [Text.isBlank, Bool.or_eq_false_iff, Bool.and_eq_false_iff, decide_eq_false_iff_not,
      beq_eq_false_iff_ne]
    omega
  · rfl
  · rfl

theorem Spells.trim (spells : Spells text address) : Text.trim text = text := by
  have clear {other : List Char} (same : ∀ c ∈ other, c ∈ text) :
      other.dropWhile Text.isBlank = other := by
    cases other with
    | nil => rfl
    | cons c rest =>
      rw [List.dropWhile_cons_of_neg]
      simp [(spells.isSpellingChar (same c List.mem_cons_self)).not_isBlank]
  rw [Text.trim, clear fun c present => present, clear fun c present => List.mem_reverse.mp present,
    List.reverse_reverse]

end Net.Address
end Dashboard
