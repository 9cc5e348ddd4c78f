import Dashboard.Proofs.Cache.Lookup

namespace Dashboard.Cache

namespace Store

/-- The end of the time to live, if a reading can hold it, and else the end of the century. -/
theorem expiry?_eq_some_iff {now expiry : Instant} {ttl : Duration} :
    expiry? now ttl = some expiry ↔
      (now.after ttl ≤ Instant.last ∧ expiry = now.after ttl) ∨
        (¬ now.after ttl ≤ Instant.last ∧ now.after century ≤ Instant.last ∧
          expiry = now.after century) := by
  by_cases fits : now.after ttl ≤ Instant.last
  · simp [expiry?, Instant.add?, fits, eq_comm]
  · by_cases room : now.after century ≤ Instant.last
    · simp [expiry?, Instant.add?, fits, room, eq_comm]
    · simp [expiry?, Instant.add?, fits, room]

theorem expiry?_isSome_iff {now : Instant} {ttl : Duration} :
    (expiry? now ttl).isSome ↔ now.after ttl ≤ Instant.last ∨ now.after century ≤ Instant.last := by
  by_cases fits : now.after ttl ≤ Instant.last
  · simp [expiry?, Instant.add?, fits]
  · by_cases room : now.after century ≤ Instant.last
    · simp [expiry?, Instant.add?, fits, room]
    · simp [expiry?, Instant.add?, fits, room]

theorem le_expiry {now expiry : Instant} {ttl : Duration} (expires : expiry? now ttl = some expiry) :
    now ≤ expiry := by
  rw [expiry?_eq_some_iff] at expires
  rw [Instant.le_iff]
  obtain ⟨-, rfl⟩ | ⟨-, -, rfl⟩ := expires
  · exact Int.le_add_of_nonneg_right (Int.natCast_nonneg _)
  · exact Int.le_add_of_nonneg_right (Int.natCast_nonneg _)

/-- Of two times to live that begin together the shorter one ends first, unless it ends after a century
and the longer one has to make do with that. -/
theorem expiry_le_iff {now first second : Instant} {shorter longer : Duration} (order : shorter ≤ longer)
    (expiresFirst : expiry? now shorter = some first)
    (expiresSecond : expiry? now longer = some second) :
    first ≤ second ↔ shorter ≤ century ∨ now.after longer ≤ Instant.last ∨
      ¬ now.after shorter ≤ Instant.last := by
  rw [expiry?_eq_some_iff] at expiresFirst expiresSecond
  simp only [Duration.le_iff, Instant.le_iff, Instant.after] at *
  obtain ⟨fits, rfl⟩ | ⟨late, -, rfl⟩ := expiresFirst
  case inr =>
    -- The longer one is beyond all readings as well, so that both end after a century.
    have later : ¬ now.nanos + longer.nanos ≤ Instant.last.nanos := by omega
    obtain ⟨absurdly, -⟩ | ⟨-, -, rfl⟩ := expiresSecond
    · exact absurd absurdly later
    · simp [late]
  case inl =>
    obtain ⟨fitsToo, rfl⟩ | ⟨late, -, rfl⟩ := expiresSecond
    · simp only [fits, fitsToo, true_or, or_true, iff_true]
      omega
    · simp only [fits, late, not_true_eq_false, or_false]
      omega

end Store

namespace Service

variable {α : Type} {service after : Service α} {key : String} {value : α} {ttl : Duration}
  {now : Instant}

/-- A value that was stored is found until its expiry, and at no reading from then on. -/
theorem get_of_setFor? (stored : service.setFor? key value ttl now = some after) :
    ∃ expiry, Store.expiry? now ttl = some expiry ∧
      ∀ later, (after.get key later).1 = some value ↔ later < expiry := by
  obtain ⟨expiry, expires, -, entries⟩ := setFor?_entries stored
  refine ⟨expiry, expires, fun later => ?_⟩
  have found : (after.get key later).1 = Store.leftAt (some (value, expiry)) later := by
    have seen : (after.get key later).1 = after.store.valueAt key later := after.store.get_fst key later
    rw [seen, Store.valueAt_put entries key later, if_pos rfl]
  rw [found]
  by_cases alive : later < expiry
  · simp [Store.leftAt, Option.filter, alive]
  · simp [Store.leftAt, Option.filter, alive]

end Service

/-- A value is stored exactly if its time to live or else a century ends at a reading of the clock. Of two
times to live the longer one is the longer life, at all later readings, exactly if the shorter one is a
century at most or both are beyond all readings or neither is. -/
theorem outlives_iff {α : Type} (service : Service α) (key : String) (value : α) (now : Instant)
    {shorter longer : Duration} (order : shorter ≤ longer) :
    (∀ ttl, (service.setFor? key value ttl now).isSome ↔
      now.after ttl ≤ Instant.last ∨ now.after Store.century ≤ Instant.last) ∧
    ∀ brief lasting, service.setFor? key value shorter now = some brief →
      service.setFor? key value longer now = some lasting →
        ((∀ later, now ≤ later → (brief.get key later).1 = some value →
            (lasting.get key later).1 = some value) ↔
          shorter ≤ Store.century ∨ now.after longer ≤ Instant.last ∨
            ¬ now.after shorter ≤ Instant.last) := by
  constructor
  · intro ttl
    rw [← Store.expiry?_isSome_iff]
    cases expires : Store.expiry? now ttl with
    | none => simp [Service.setFor?_eq_none.mpr expires]
    | some expiry => simp [Service.setFor?, Store.set?, expires]
  intro brief lasting storedBrief storedLasting
  obtain ⟨first, firstExpires, foundBrief⟩ := Service.get_of_setFor? storedBrief
  obtain ⟨second, secondExpires, foundLasting⟩ := Service.get_of_setFor? storedLasting
  rw [← Store.expiry_le_iff order firstExpires secondExpires]
  simp only [foundBrief, foundLasting]
  constructor
  · intro outlives
    refine Int.not_lt.mp fun sooner => ?_
    -- At the very end of the longer life the shorter one would still go on.
    exact Int.lt_irrefl _ (outlives second (Store.le_expiry secondExpires) sooner)
  · intro sooner later _ alive
    exact Int.lt_of_lt_of_le alive sooner

/-- After a century and a half the value that was to live for two centuries is still there, and the one
that was to live for the longest span is not; a value stored for a day is outlived by it. -/
theorem outlives_iff_two_centuries :
    let service : Service Nat := .start .standard
    let now : Instant := ⟨1000000 * 1000000000⟩
    let day := Duration.ofSeconds 86400
    let twoCenturies := Duration.ofSeconds (200 * 365 * 24 * 3600)
    (day ≤ Duration.longest ∧ twoCenturies ≤ Duration.longest) ∧
    ∃ brief two lasting, service.setFor? "key" 1 day now = some brief ∧
      service.setFor? "key" 1 twoCenturies now = some two ∧
      service.setFor? "key" 1 Duration.longest now = some lasting ∧
      (∀ later, now ≤ later → (brief.get "key" later).1 = some 1 →
        (lasting.get "key" later).1 = some 1) ∧
      (¬ ∀ later, now ≤ later → (two.get "key" later).1 = some 1 →
        (lasting.get "key" later).1 = some 1) ∧
      let later := now.after (Duration.ofSeconds (150 * 365 * 24 * 3600))
      (two.get "key" later).1 = some 1 ∧ (lasting.get "key" later).1 = none := by
  intro service now day twoCenturies
  have dayShorter : day ≤ Duration.longest := by decide
  have twoShorter : twoCenturies ≤ Duration.longest := by decide
  obtain ⟨brief, storedBrief⟩ : ∃ brief, service.setFor? "key" 1 day now = some brief := ⟨_, rfl⟩
  obtain ⟨two, storedTwo⟩ : ∃ two, service.setFor? "key" 1 twoCenturies now = some two := ⟨_, rfl⟩
  obtain ⟨lasting, storedLasting⟩ :
      ∃ lasting, service.setFor? "key" 1 Duration.longest now = some lasting := ⟨_, rfl⟩
  have afterDay := (outlives_iff service "key" 1 now dayShorter).2 brief lasting storedBrief storedLasting
  have afterTwo := (outlives_iff service "key" 1 now twoShorter).2 two lasting storedTwo storedLasting
  refine ⟨⟨dayShorter, twoShorter⟩, brief, two, lasting, storedBrief, storedTwo, storedLasting,
    afterDay.mpr (by decide), mt afterTwo.mp (by decide), ?_, ?_⟩
  · cases storedTwo; rfl
  · cases storedLasting; rfl

end Dashboard.Cache
