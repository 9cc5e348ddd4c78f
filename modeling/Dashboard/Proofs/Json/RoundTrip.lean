import Dashboard.Proofs.Json.Numeral

namespace Dashboard.Json

open Dashboard.Json.Symbol (ofChars)

mutual

/-- How many brackets are open at once, at most, in the text of a value. -/
def Value.depth : Value → Nat
  | .array items => itemsDepth items + 1
  | .object members => membersDepth members + 1
  | .null | .bool _ | .number _ | .string _ => 0

def itemsDepth : List Value → Nat
  | [] => 0
  | item :: rest => max item.depth (itemsDepth rest)

def membersDepth : List (String × Value) → Nat
  | [] => 0
  | (_, value) :: rest => max value.depth (membersDepth rest)

end

theorem membersDepth_eq_zero {members : List (String × Value)}
    (flat : ∀ member ∈ members, member.2.depth = 0) : membersDepth members = 0 := by
  induction members with
  | nil => rfl
  | cons member rest inductionHypothesis =>
    obtain ⟨key, value⟩ := member
    have first := flat (key, value) List.mem_cons_self
    have others := inductionHypothesis fun member present => flat member (List.mem_cons_of_mem _ present)
    rw [membersDepth, first, others, Nat.max_self]

/-- Something nested no deeper than `limit` is read as `result`; anything else is refused for its
depth. -/
structure ReadsWithin {α : Type} (limit depth : Nat) (outcome : Except Fault α) (result : α) :
    Prop where
  read : depth ≤ limit → outcome = .ok result
  refused : limit < depth → ∃ fault, outcome = .error fault ∧ fault.cause = .tooDeep

namespace ReadsWithin

variable {α β : Type} {limit depth : Nat} {outcome : Except Fault α} {result : α}

theorem of_eq (read : outcome = .ok result) : ReadsWithin limit 0 outcome result where
  read _ := read
  refused deeper := absurd deeper (Nat.not_lt_zero limit)

theorem map (reads : ReadsWithin limit depth outcome result) (f : α → β) :
    ReadsWithin limit depth (outcome.map f) (f result) where
  read shallow := by
    rw [reads.read shallow]
    rfl
  refused deeper := by
    obtain ⟨fault, refused, tooDeep⟩ := reads.refused deeper
    rw [refused]
    exact ⟨fault, rfl, tooDeep⟩

/-- One bracket around what is read takes one from the limit. -/
theorem succ (reads : ReadsWithin limit depth outcome result) :
    ReadsWithin (limit + 1) (depth + 1) outcome result where
  read shallow := reads.read (Nat.le_of_succ_le_succ shallow)
  refused deeper := reads.refused (Nat.lt_of_succ_lt_succ deeper)

theorem within (reads : ReadsWithin limit depth outcome result) (segment : Segment) :
    ReadsWithin limit depth (outcome.mapError (Fault.within segment)) result where
  read shallow := by
    rw [reads.read shallow]
    rfl
  refused deeper := by
    obtain ⟨fault, refused, tooDeep⟩ := reads.refused deeper
    rw [refused]
    exact ⟨fault.within segment, rfl, tooDeep⟩

/-- The first of two readings decides if it is too deep, and else the second. -/
theorem bind {nextDepth : Nat} {next : α → Except Fault β} {last : β}
    (reads : ReadsWithin limit depth outcome result)
    (behind : ReadsWithin limit nextDepth (next result) last) :
    ReadsWithin limit (max depth nextDepth) (outcome.bind next) last := by
  by_cases shallow : depth ≤ limit
  · have bound : outcome.bind next = next result := by
      rw [reads.read shallow]
      rfl
    rw [bound]
    constructor
    case read => exact fun both => behind.read (Nat.max_le.mp both).2
    case refused => exact fun deeper => behind.refused (by omega)
  · constructor
    case read => exact fun both => absurd (Nat.max_le.mp both).1 shallow
    case refused =>
      intro _
      obtain ⟨fault, refused, tooDeep⟩ := reads.refused (Nat.lt_of_not_le shallow)
      rw [refused]
      exact ⟨fault, rfl, tooDeep⟩

end ReadsWithin

theorem skipBlanks_cons {symbol : Symbol} (visible : isSpace symbol = false) (rest : List Symbol) :
    skipBlanks (symbol :: rest) = symbol :: rest := by
  rw [skipBlanks, List.dropWhile_cons_of_neg (by simp [visible])]

theorem colon_char (rest : List Symbol) : colon (.char ':' :: rest) = .ok rest := by
  simp [colon, skipBlanks_cons, isSpace]

/-- What stands in a list from some of its items on, behind others or as the first ones. -/
def remainingItems (isFirst : Bool) : List Value → List Char
  | [] => [']']
  | item :: rest => (if isFirst then [] else [',']) ++ (item.written ++ remainingItems false rest)

/-- What stands in an object from some of its members on. -/
def remainingMembers (isFirst : Bool) : List (String × Value) → List Char
  | [] => ['\x7d']
  | (key, value) :: rest =>
    (if isFirst then [] else [',']) ++
      (quoted key ++ ':' :: (value.written ++ remainingMembers false rest))

theorem writtenItems_eq (items : List Value) : writtenItems items = remainingItems true items := by
  induction items with
  | nil => rfl
  | cons item rest inductionHypothesis =>
    cases rest with
    | nil => rfl
    | cons next others => simp [writtenItems, inductionHypothesis, remainingItems]

theorem writtenMembers_eq (members : List (String × Value)) :
    writtenMembers members = remainingMembers true members := by
  induction members with
  | nil => rfl
  | cons member rest inductionHypothesis =>
    cases rest with
    | nil => rfl
    | cons next others => simp [writtenMembers, inductionHypothesis, remainingMembers]

theorem endsNumber_remainingItems (items : List Value) (rest : List Symbol) :
    endsNumber (ofChars (remainingItems false items) ++ rest) = true := by
  cases items <;> rfl

theorem endsNumber_remainingMembers (members : List (String × Value)) (rest : List Symbol) :
    endsNumber (ofChars (remainingMembers false members) ++ rest) = true := by
  cases members <;> rfl

/-- Every item takes a place in the text, so that the bound of the reader is never reached. -/
theorem length_lt_remainingItems (items : List Value) :
    items.length < (remainingItems false items).length := by
  induction items with
  | nil => exact Nat.zero_lt_one
  | cons item rest inductionHypothesis =>
    simp only [remainingItems, Bool.false_eq_true, if_false, List.length_append, List.length_cons,
      List.length_nil]
    omega

theorem length_lt_remainingMembers (members : List (String × Value)) :
    members.length < (remainingMembers false members).length := by
  induction members with
  | nil => exact Nat.zero_lt_one
  | cons member rest inductionHypothesis =>
    obtain ⟨key, value⟩ := member
    simp only [remainingMembers, Bool.false_eq_true, if_false, List.length_append, List.length_cons,
      List.length_nil]
    omega

theorem length_le_writtenItems (items : List Value) : items.length ≤ (writtenItems items).length := by
  have counted := length_lt_remainingItems items
  rw [writtenItems_eq]
  cases items with
  | nil => exact Nat.zero_le _
  | cons item rest =>
    simp only [remainingItems, Bool.false_eq_true, if_true, if_false, List.length_append,
      List.length_cons, List.length_nil] at counted ⊢
    omega

theorem length_le_writtenMembers (members : List (String × Value)) :
    members.length ≤ (writtenMembers members).length := by
  have counted := length_lt_remainingMembers members
  rw [writtenMembers_eq]
  cases members with
  | nil => exact Nat.zero_le _
  | cons member rest =>
    simp only [remainingMembers, Bool.false_eq_true, if_true, if_false, List.length_append,
      List.length_cons, List.length_nil] at counted ⊢
    omega

/-- A text that can stand where a list goes on with a value. -/
def StartsValue (chars : List Char) : Prop :=
  ∃ c more, chars = c :: more ∧ isSpace (.char c) = false ∧ c ≠ ']'

theorem nextItem?_nil (isFirst : Bool) (rest : List Symbol) :
    nextItem? isFirst (.char ']' :: rest) = .ok none := by
  simp [nextItem?, skipBlanks_cons, isSpace]

theorem nextItem?_cons (isFirst : Bool) {chars : List Char} (starts : StartsValue chars)
    (rest : List Symbol) :
    nextItem? isFirst (ofChars ((if isFirst then [] else [',']) ++ chars) ++ rest) =
      .ok (some (ofChars chars ++ rest)) := by
  obtain ⟨c, more, rfl, visible, noEnd⟩ := starts
  cases isFirst with
  | true => simp [nextItem?, skipBlanks_cons visible, noEnd]
  | false =>
    have comma : isSpace (.char ',') = false := rfl
    simp [nextItem?, skipBlanks_cons comma, skipBlanks_cons visible, noEnd]

theorem nextKey?_nil (isFirst : Bool) (rest : List Symbol) :
    nextKey? isFirst (.char '\x7d' :: rest) = .ok none := by
  simp [nextKey?, skipBlanks_cons, isSpace]

/-- A key is read behind the comma in front of it, if there is one. -/
theorem nextKey?_quoted (isFirst : Bool) (key : String) (rest : List Symbol) :
    nextKey? isFirst (ofChars ((if isFirst then [] else [',']) ++ quoted key) ++ rest) =
      .ok (some (key, rest)) := by
  have quote : isSpace (.char '"') = false := rfl
  have read : keyText (.char '"' :: (ofChars (quoted key).tail ++ rest)) =
      .ok (some (key, rest)) := by
    rw [keyText, List.drop_succ_cons, List.drop_zero, quotedText_quoted]
    rfl
  rw [Symbol.ofChars_append, ofChars_quoted]
  cases isFirst with
  | true => simpa [nextKey?, skipBlanks_cons quote] using read
  | false =>
    have comma : isSpace (.char ',') = false := rfl
    simpa [nextKey?, skipBlanks_cons comma, skipBlanks_cons quote] using read

/-- In front of anything that ends a number, a reader gives the value of a text back, if that is
nested no deeper than `limit`. -/
def ReadsBack (reader : Reader Value) (limit : Nat) (value : Value) : Prop :=
  ∀ rest, endsNumber rest = true →
    ReadsWithin limit value.depth (reader (ofChars value.written ++ rest)) (value, rest)

theorem items_nil (reader : Reader Value) (bound : Nat) (before : List Value) (rest : List Symbol) :
    items reader (bound + 1) before (.char ']' :: rest) = .ok (before.reverse, rest) := by
  rw [items, nextItem?_nil]
  simp [closing, skipBlanks_cons, isSpace]

/-- One item of a list, and the others behind it. -/
theorem items_cons (reader : Reader Value) (bound : Nat) (before : List Value) {item : Value}
    (starts : StartsValue item.written) (rest : List Symbol) :
    items reader (bound + 1) before
        (ofChars ((if before.isEmpty then [] else [',']) ++ item.written) ++ rest) =
      ((reader (ofChars item.written ++ rest)).mapError (Fault.within (.index before.length))).bind
        fun read => items reader bound (read.1 :: before) read.2 := by
  rw [items, nextItem?_cons _ starts]
  cases outcome : reader (ofChars item.written ++ rest) with
  | error fault => simp only [outcome]; rfl
  | ok read => simp only [outcome]; rfl

theorem members_nil (reader : Reader Value) (bound : Nat) (before : List (String × Value))
    (rest : List Symbol) :
    members reader (bound + 1) before (.char '\x7d' :: rest) = .ok (before.reverse, rest) := by
  rw [members, nextKey?_nil]
  simp [closing, skipBlanks_cons, isSpace]

/-- One member of an object, and the others behind it. -/
theorem members_cons (reader : Reader Value) (bound : Nat) (before : List (String × Value))
    (key : String) (rest : List Symbol) :
    members reader (bound + 1) before
        (ofChars ((if before.isEmpty then [] else [',']) ++ quoted key) ++ .char ':' :: rest) =
      ((reader rest).mapError (Fault.within (.key key))).bind
        fun read => members reader bound ((key, read.1) :: before) read.2 := by
  rw [members, nextKey?_quoted]
  simp only [colon_char]
  cases outcome : reader rest with
  | error fault => rfl
  | ok read => rfl

theorem items_remainingItems {reader : Reader Value} {limit : Nat} (list before : List Value)
    {bound : Nat} (enough : list.length < bound) (starts : ∀ item ∈ list, StartsValue item.written)
    (readsBack : ∀ item ∈ list, ReadsBack reader limit item) (rest : List Symbol) :
    ReadsWithin limit (itemsDepth list)
      (items reader bound before (ofChars (remainingItems before.isEmpty list) ++ rest))
      (before.reverse ++ list, rest) := by
  induction list generalizing before bound with
  | nil =>
    obtain ⟨bound, rfl⟩ := Nat.exists_eq_add_one.mpr enough
    rw [List.append_nil]
    exact .of_eq (items_nil reader bound before rest)
  | cons item others inductionHypothesis =>
    obtain ⟨bound, rfl⟩ := Nat.exists_eq_add_one.mpr (Nat.zero_lt_of_lt enough)
    have first := readsBack item List.mem_cons_self
      (ofChars (remainingItems false others) ++ rest) (endsNumber_remainingItems others rest)
    have behind := inductionHypothesis (item :: before) (Nat.lt_of_succ_lt_succ enough)
      (fun other present => starts other (List.mem_cons_of_mem item present))
      (fun other present => readsBack other (List.mem_cons_of_mem item present))
    rw [List.reverse_cons, List.append_assoc] at behind
    have split : ofChars (remainingItems before.isEmpty (item :: others)) ++ rest =
        ofChars ((if before.isEmpty then [] else [',']) ++ item.written) ++
          (ofChars (remainingItems false others) ++ rest) := by
      simp [remainingItems]
    rw [itemsDepth, split, items_cons reader bound before (starts item List.mem_cons_self)]
    exact (first.within _).bind behind

theorem members_remainingMembers {reader : Reader Value} {limit : Nat}
    (list before : List (String × Value)) {bound : Nat} (enough : list.length < bound)
    (readsBack : ∀ member ∈ list, ReadsBack reader limit member.2) (rest : List Symbol) :
    ReadsWithin limit (membersDepth list)
      (members reader bound before (ofChars (remainingMembers before.isEmpty list) ++ rest))
      (before.reverse ++ list, rest) := by
  induction list generalizing before bound with
  | nil =>
    obtain ⟨bound, rfl⟩ := Nat.exists_eq_add_one.mpr enough
    rw [List.append_nil]
    exact .of_eq (members_nil reader bound before rest)
  | cons member others inductionHypothesis =>
    obtain ⟨bound, rfl⟩ := Nat.exists_eq_add_one.mpr (Nat.zero_lt_of_lt enough)
    obtain ⟨key, value⟩ := member
    have first := readsBack (key, value) List.mem_cons_self
      (ofChars (remainingMembers false others) ++ rest) (endsNumber_remainingMembers others rest)
    have behind := inductionHypothesis ((key, value) :: before) (Nat.lt_of_succ_lt_succ enough)
      (fun other present => readsBack other (List.mem_cons_of_mem _ present))
    rw [List.reverse_cons, List.append_assoc] at behind
    have split : ofChars (remainingMembers before.isEmpty ((key, value) :: others)) ++ rest =
        ofChars ((if before.isEmpty then [] else [',']) ++ quoted key) ++ .char ':' ::
          (ofChars value.written ++ (ofChars (remainingMembers false others) ++ rest)) := by
      simp [remainingMembers]
    rw [membersDepth, split, members_cons]
    exact (first.within _).bind behind

/-- The values that their text keeps exactly: whole numbers are in the range of 64 bits, there are no
others, and members are in order. -/
inductive Value.IsExact : Value → Prop where
  | null : IsExact .null
  | bool (value : Bool) : IsExact (.bool value)
  | integer {value : Int} (whole : IsWhole value) : IsExact (.number (.integer value))
  | string (text : String) : IsExact (.string text)
  | array {items : List Value} (exact : ∀ item ∈ items, IsExact item) : IsExact (.array items)
  | object {members : List (String × Value)} (ordered : Members.Ordered members)
      (exact : ∀ member ∈ members, IsExact member.2) : IsExact (.object members)

theorem isSpace_of_startsNumber {c : Char} (starts : startsNumber c = true) :
    isSpace (.char c) = false := by
  have space : c ≠ ' ' := ne_of_startsNumber starts rfl
  have newline : c ≠ '\n' := ne_of_startsNumber starts rfl
  have tab : c ≠ '\t' := ne_of_startsNumber starts rfl
  have feed : c ≠ '\r' := ne_of_startsNumber starts rfl
  simp [isSpace, space, newline, tab, feed]

theorem Value.IsExact.startsValue {value : Value} (exact : value.IsExact) :
    StartsValue value.written := by
  cases exact with
  | null => exact ⟨'n', _, rfl, rfl, by decide⟩
  | bool value =>
    cases value with
    | true => exact ⟨'t', _, rfl, rfl, by decide⟩
    | false => exact ⟨'f', _, rfl, rfl, by decide⟩
  | integer whole =>
    obtain ⟨c, more, written, starts⟩ := text_integer_eq_cons _
    exact ⟨c, more, written, isSpace_of_startsNumber starts, ne_of_startsNumber starts rfl⟩
  | string text => exact ⟨'"', _, rfl, rfl, by decide⟩
  | array exact => exact ⟨'[', _, rfl, rfl, by decide⟩
  | object ordered exact => exact ⟨'\x7b', _, rfl, rfl, by decide⟩

theorem Members.insert_of_forall_lt (members : Members) {key : String} (value : Value)
    (below : ∀ member ∈ members, member.1 < key) :
    insert key value members = members ++ [(key, value)] := by
  induction members with
  | nil => rfl
  | cons present rest inductionHypothesis =>
    have before := below present List.mem_cons_self
    have different : key ≠ present.1 := by
      intro same
      exact String.lt_irrefl key (same ▸ before)
    have others := inductionHypothesis fun member member' => below member (List.mem_cons_of_mem _ member')
    rw [insert, if_neg different, if_neg (String.lt_asymm before), others, List.cons_append]

theorem Members.ofList_of_ordered {members : Members} (ordered : Ordered members) :
    ofList members = members := by
  have general (members before : Members) (ordered : Ordered (before ++ members)) :
      members.foldl (fun members entry => insert entry.1 entry.2 members) before =
        before ++ members := by
    induction members generalizing before with
    | nil => rw [List.foldl_nil, List.append_nil]
    | cons entry rest inductionHypothesis =>
      have below : ∀ member ∈ before, member.1 < entry.1 := by
        intro member present
        rw [Ordered, List.map_append, List.pairwise_append] at ordered
        exact ordered.2.2 _ (List.mem_map_of_mem present) _ (by simp)
      rw [List.foldl_cons, insert_of_forall_lt before entry.2 below, inductionHypothesis]
      · simp
      · simpa using ordered
  exact general members [] ordered

theorem valueWith_array (list object : Reader Value) (rest : List Symbol) :
    valueWith list object (.char '[' :: rest) = list rest := by
  simp [valueWith, skipBlanks_cons, isSpace]

theorem valueWith_object (list object : Reader Value) (rest : List Symbol) :
    valueWith list object (.char '\x7b' :: rest) = object rest := by
  simp [valueWith, skipBlanks_cons, isSpace]

theorem valueWith_string (list object : Reader Value) (text : String) (rest : List Symbol) :
    valueWith list object (ofChars (quoted text) ++ rest) = .ok (.string text, rest) := by
  have read := quotedText_quoted text rest
  rw [ofChars_quoted, List.cons_append]
  simp [valueWith, skipBlanks_cons, isSpace, read, Except.map]

theorem valueWith_integer (list object : Reader Value) {number : Int} (whole : IsWhole number)
    {rest : List Symbol} (ends : endsNumber rest = true) :
    valueWith list object (ofChars (Number.integer number).text ++ rest) =
      .ok (.number (.integer number), rest) := by
  obtain ⟨c, more, written, starts⟩ := text_integer_eq_cons number
  have read := numeral_integer whole ends
  rw [written, Symbol.ofChars_cons, List.cons_append] at read ⊢
  have noList : c ≠ '[' := ne_of_startsNumber starts rfl
  have noObject : c ≠ '\x7b' := ne_of_startsNumber starts rfl
  have noText : c ≠ '"' := ne_of_startsNumber starts rfl
  have isNumber : c = '-' ∨ c.isDigit = true := by simpa [startsNumber] using starts
  simp [valueWith, skipBlanks_cons (isSpace_of_startsNumber starts), noList, noObject, noText,
    isNumber, read, Except.map]

theorem listRest_writtenItems {reader : Reader Value} {limit : Nat} {list : List Value}
    (starts : ∀ item ∈ list, StartsValue item.written)
    (readsBack : ∀ item ∈ list, ReadsBack reader limit item) (rest : List Symbol) :
    ReadsWithin limit (itemsDepth list) (listRest reader (ofChars (writtenItems list) ++ rest))
      (.array list, rest) := by
  have enough : list.length < (ofChars (writtenItems list) ++ rest).length + 1 := by
    have counted := length_le_writtenItems list
    rw [List.length_append, ofChars, List.length_map]
    omega
  have read := items_remainingItems list [] enough starts readsBack rest
  rw [List.isEmpty_nil, ← writtenItems_eq] at read
  exact read.map fun found : List Value × List Symbol => (Value.array found.1, found.2)

/-- An object is read as one with its members, whatever their order is. -/
theorem objectRest_writtenMembers {reader : Reader Value} {limit : Nat}
    {list : List (String × Value)} (readsBack : ∀ member ∈ list, ReadsBack reader limit member.2)
    (rest : List Symbol) :
    ReadsWithin limit (membersDepth list)
      (objectRest reader (ofChars (writtenMembers list) ++ rest)) (.ofEntries list, rest) := by
  have enough : list.length < (ofChars (writtenMembers list) ++ rest).length + 1 := by
    have counted := length_le_writtenMembers list
    rw [List.length_append, ofChars, List.length_map]
    omega
  have read := members_remainingMembers list [] enough readsBack rest
  rw [List.isEmpty_nil, ← writtenMembers_eq] at read
  exact read.map fun found : List (String × Value) × List Symbol =>
    (Value.ofEntries found.1, found.2)

theorem refused_tooDeep {limit depth : Nat} (input : List Symbol) (result : Value × List Symbol)
    (deeper : limit < depth) : ReadsWithin limit depth (tooDeep input) result where
  read shallow := absurd deeper (Nat.not_lt_of_le shallow)
  refused _ := ⟨_, rfl, rfl⟩

/-- An object of exact values is read back, if the reader goes that deep. -/
theorem value_writtenMembers {list : List (String × Value)}
    (readsBack : ∀ member ∈ list, ∀ limit, ReadsBack (value limit) limit member.2) (limit : Nat)
    (rest : List Symbol) :
    ReadsWithin limit (membersDepth list + 1)
      (value limit (ofChars ('\x7b' :: writtenMembers list) ++ rest)) (.ofEntries list, rest) := by
  cases limit with
  | zero =>
    rw [value, Symbol.ofChars_cons, List.cons_append, valueWith_object]
    exact refused_tooDeep _ _ (Nat.succ_pos _)
  | succ limit =>
    rw [value, Symbol.ofChars_cons, List.cons_append, valueWith_object]
    have read := objectRest_writtenMembers (fun member present => readsBack member present limit) rest
    exact read.succ

/-- The text of an exact value is read as that value by every reader that goes deep enough, and
refused as too deep by all others. -/
theorem Value.IsExact.readsBack {value : Value} (exact : value.IsExact) (limit : Nat) :
    ReadsBack (Json.value limit) limit value := by
  -- on the value, for every depth: items and members are read by a reader that goes one level less deep
  induction exact generalizing limit with
  | null =>
    intro rest ends
    apply ReadsWithin.of_eq
    cases limit <;> rfl
  | bool value =>
    intro rest ends
    apply ReadsWithin.of_eq
    cases limit <;> cases value <;> rfl
  | integer whole =>
    intro rest ends
    apply ReadsWithin.of_eq
    cases limit with
    | zero => exact valueWith_integer _ _ whole ends
    | succ limit => exact valueWith_integer _ _ whole ends
  | string text =>
    intro rest ends
    apply ReadsWithin.of_eq
    cases limit with
    | zero => exact valueWith_string _ _ text rest
    | succ limit => exact valueWith_string _ _ text rest
  | @array items exact inductionHypothesis =>
    intro rest ends
    rw [written, Symbol.ofChars_cons, List.cons_append, depth]
    cases limit with
    | zero =>
      rw [Json.value, valueWith_array]
      exact refused_tooDeep _ _ (Nat.succ_pos _)
    | succ limit =>
      rw [Json.value, valueWith_array]
      have read := listRest_writtenItems (fun item present => (exact item present).startsValue)
        (fun item present => inductionHypothesis item present limit) rest
      exact read.succ
  | @object members ordered exact inductionHypothesis =>
    intro rest ends
    have read := value_writtenMembers inductionHypothesis limit rest
    rw [ofEntries, Members.ofList_of_ordered ordered] at read
    exact read

theorem ReadsWithin.finish {α : Type} {limit depth : Nat} {outcome : Except Fault (α × List Symbol)}
    {result : α} (reads : ReadsWithin limit depth outcome (result, [])) :
    ReadsWithin limit depth (Json.finish outcome) result where
  read shallow := by
    rw [reads.read shallow]
    rfl
  refused deeper := by
    obtain ⟨fault, refused, tooDeep⟩ := reads.refused deeper
    rw [refused]
    exact ⟨fault, rfl, tooDeep⟩

/-- The document that an exact value is written as is that value again, if it is not too deep. -/
theorem Value.IsExact.parse_document {value : Value} (exact : value.IsExact) :
    ReadsWithin deepest value.depth (parse (Symbol.ofText value.text)) value := by
  have read := exact.readsBack deepest [] rfl
  rw [List.append_nil] at read
  rw [text, Symbol.ofText_ofList]
  exact read.finish

end Dashboard.Json
