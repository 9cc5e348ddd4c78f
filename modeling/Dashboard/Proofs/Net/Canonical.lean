import Dashboard.Proofs.Net.Spelling

namespace Dashboard.Net.Address

theorem groupsText_eq_intercalate (groups : List (Fin 65536)) :
    groupsText groups = [':'].intercalate (groups.map groupText) := by
  induction groups with
  | nil => rfl
  | cons group rest inductionHypothesis =>
    cases rest with
    | nil => simp [groupsText]
    | cons next more =>
      rw [groupsText, inductionHypothesis]
      · simp [List.intercalate_cons_cons]
      · exact List.cons_ne_nil next more

theorem forall₂_groupText (groups : List (Fin 65536)) :
    List.Forall₂ SpellsGroup (groups.map groupText) groups := by
  rw [List.forall₂_map_left_iff]
  exact List.forall₂_same.mpr fun group _ => spellsGroup_groupText group

theorem eq_replicate_leadingZeros (groups : List (Fin 65536)) :
    ∃ after, groups = List.replicate (leadingZeros groups) 0 ++ after := by
  induction groups with
  | nil => exact ⟨[], rfl⟩
  | cons group rest inductionHypothesis =>
    rw [leadingZeros]
    split
    case isTrue zero =>
      obtain ⟨after, split⟩ := inductionHypothesis
      exact ⟨after, by rw [List.replicate_succ, List.cons_append, ← split, zero]⟩
    case isFalse => exact ⟨group :: rest, rfl⟩

theorem longestZeros_split {start first length : Nat} {groups : List (Fin 65536)}
    (found : longestZeros start groups = (first, length)) :
    ∃ before after, groups = before ++ List.replicate length 0 ++ after ∧
      first = start + before.length := by
  induction groups generalizing start with
  | nil =>
    cases found
    exact ⟨[], [], rfl, rfl⟩
  | cons group rest inductionHypothesis =>
    rw [longestZeros] at found
    split at found
    case isTrue =>
      cases found
      obtain ⟨after, split⟩ := eq_replicate_leadingZeros (group :: rest)
      exact ⟨[], after, split, rfl⟩
    case isFalse =>
      obtain ⟨before, after, split, rfl⟩ := inductionHypothesis found
      exact ⟨group :: before, after, by rw [split]; rfl, by rw [List.length_cons]; omega⟩

theorem joinOctets_eq {group : Fin 65536} {high low : Fin 256} (isHigh : high.val = group.val / 256)
    (isLow : low.val = group.val % 256) : joinOctets high low = group := by
  have value : 256 * high.val + low.val = group.val := by rw [isHigh, isLow, Nat.div_add_mod]
  exact Fin.ext value

theorem eq_of_mappedOctets? {groups : List (Fin 65536)} {first second third fourth : Fin 256}
    (mapped : mappedOctets? groups = some (first, second, third, fourth)) :
    groups = [0, 0, 0, 0, 0, 65535, joinOctets first second, joinOctets third fourth] := by
  unfold mappedOctets? at mapped
  split at mapped
  case h_1 high low =>
    cases mapped
    rw [joinOctets_eq rfl rfl, joinOctets_eq rfl rfl]
  case h_2 => cases mapped

theorem spells_text (address : Address) : Spells address.text address := by
  cases address with
  | v4 first second third fourth => exact .octets first second third fourth
  | v6 groups eight =>
    rw [text, sixText]
    cases mapped : mappedOctets? groups with
    | some octets =>
      obtain ⟨first, second, third, fourth⟩ := octets
      obtain rfl := eq_of_mappedOctets? mapped
      have ones : SpellsGroup (groupText 65535) 65535 := spellsGroup_groupText 65535
      -- an embedded older address is written as a gap, one group of ones and four octets
      have written : "::ffff:".toList ++ octetsText first second third fourth =
          [':'].intercalate [] ++ ':' :: ':' ::
            [':'].intercalate [groupText 65535, octetsText first second third fourth] := by
        rw [List.intercalate_cons_cons, List.intercalate_singleton]
        rfl
      simp only [written]
      exact .gap .nil (.more ones (.octets first second third fourth)) (by simp) eight
    | none =>
      simp only
      cases found : longestZeros 0 groups with
      | mk start length =>
        simp only
        split
        case isTrue long =>
          -- the run of zeros that is left out is the gap
          obtain ⟨before, after, rfl, rfl⟩ := longestZeros_split found
          simp only [List.length_append, List.length_replicate] at eight
          have front : (before ++ List.replicate length 0 ++ after).take (0 + before.length) =
              before := by simp
          have back : (before ++ List.replicate length 0 ++ after).drop (0 + before.length + length) =
              after := List.drop_left' (by simp)
          rw [front, back, groupsText_eq_intercalate, groupsText_eq_intercalate]
          obtain rfl : length = 8 - before.length - after.length := by omega
          exact .gap (forall₂_groupText before) (.of_forall₂ (forall₂_groupText after)) (by omega) _
        case isFalse =>
          rw [groupsText_eq_intercalate]
          exact .groups eight (.of_forall₂ (forall₂_groupText groups))

theorem parse?_text (address : Address) : parse? address.text = some address :=
  parse?_eq_some_iff.mpr (spells_text address)

theorem text_injective : Function.Injective text := by
  intro first second same
  exact Option.some.inj (by rw [← parse?_text first, same, parse?_text])

end Dashboard.Net.Address
