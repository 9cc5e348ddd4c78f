import Dashboard.Proofs.Net.Canonical
import Dashboard.RateLimit.ClientKey
import Mathlib.Data.List.TakeWhile

namespace Dashboard.RateLimit.Origin

open Net (Address)

/-- The text is an IP address in one of its spellings, blanks around it apart. -/
def Denotes (value : List Char) (address : Address) : Prop := Address.Spells (Text.trim value) address

theorem canonical?_eq_some_iff {value text : List Char} :
    canonical? value = some text ↔ ∃ address, Denotes value address ∧ address.text = text := by
  simp only [canonical?, Option.map_eq_some_iff, Address.parse?_eq_some_iff, Denotes]

theorem canonical?_of_denotes {value : List Char} {address : Address}
    (denotes : Denotes value address) : canonical? value = some address.text :=
  canonical?_eq_some_iff.mpr ⟨address, denotes, rfl⟩

/-- Nothing is made of a header whose part that is looked at is no address. -/
theorem bind_canonical?_eq_none {header : Option String} {part : String → List Char}
    (nothing : ∀ address value, header = some value → ¬Denotes (part value) address) :
    (header.bind fun value => canonical? (part value)) = none := by
  rw [Option.eq_none_iff_forall_ne_some]
  intro text found
  obtain ⟨value, present, read⟩ := Option.bind_eq_some_iff.mp found
  obtain ⟨address, denotes, -⟩ := canonical?_eq_some_iff.mp read
  exact nothing address value present denotes

theorem denotes_text (address : Address) : Denotes address.text address := by
  have spells := Address.spells_text address
  rwa [Denotes, spells.trim]

theorem firstEntry_text (address : Address) : firstEntry address.text = address.text := by
  rw [firstEntry, List.takeWhile_eq_self_iff]
  intro c present
  obtain digit | rfl | rfl := (Address.spells_text address).isSpellingChar present
  · rw [decide_eq_true_eq]
    rintro rfl
    exact absurd digit (by decide)
  · decide
  · decide

/-- The first header leads with the address. -/
def Forwards (origin : Origin) (address : Address) : Prop :=
  ∃ value, origin.forwardedFor = some value ∧ Denotes (firstEntry value.toList) address

def Reports (origin : Origin) (address : Address) : Prop :=
  ∃ value, origin.realAddress = some value ∧ Denotes value.toList address

/-- The address that the headers give: the one that the first header leads with, else the second
header. -/
def IsKnownAs (origin : Origin) (address : Address) : Prop :=
  origin.Forwards address ∨ (∀ other, ¬origin.Forwards other) ∧ origin.Reports address

variable {origin : Origin} {address : Address}

/-- A first header that leads with no address counts as none. -/
theorem key_of_not_forwards (nothing : ∀ other, ¬origin.Forwards other) :
    origin.key = { origin with forwardedFor := none }.key := by
  have unread : (origin.forwardedFor.bind fun value => canonical? (firstEntry value.toList)) = none :=
    bind_canonical?_eq_none fun other value present denotes => nothing other ⟨value, present, denotes⟩
  rw [key, unread]
  rfl

/-- A second header that is no address counts as none. -/
theorem key_of_not_reports (nothing : ∀ other, ¬origin.Reports other) :
    origin.key = { origin with realAddress := none }.key := by
  have unread : (origin.realAddress.bind fun value => canonical? value.toList) = none :=
    bind_canonical?_eq_none fun other value present denotes => nothing other ⟨value, present, denotes⟩
  simp only [key, unread, Option.bind_none]

theorem key_of_forwards (forwards : origin.Forwards address) :
    origin.key = String.ofList address.text := by
  obtain ⟨value, present, denotes⟩ := forwards
  rw [key, present, Option.bind_some, canonical?_of_denotes denotes]

theorem key_of_reports (nothing : ∀ other, ¬origin.Forwards other) (reports : origin.Reports address) :
    origin.key = String.ofList address.text := by
  obtain ⟨value, present, denotes⟩ := reports
  rw [key_of_not_forwards nothing, key, Option.bind_none, present, Option.bind_some,
    canonical?_of_denotes denotes]

theorem IsKnownAs.key_eq (known : origin.IsKnownAs address) :
    origin.key = String.ofList address.text := by
  obtain forwards | ⟨nothing, reports⟩ := known
  · exact key_of_forwards forwards
  · exact key_of_reports nothing reports

/-- A key leads the first header of another request with the address. -/
theorem forwards_key (known : origin.IsKnownAs address) (other : Origin) :
    { other with forwardedFor := some origin.key }.Forwards address := by
  refine ⟨origin.key, rfl, ?_⟩
  rw [known.key_eq, String.toList_ofList, firstEntry_text]
  exact denotes_text address

/-- A key is the address in the second header of another request. -/
theorem reports_key (known : origin.IsKnownAs address) (other : Origin) :
    { other with realAddress := some origin.key }.Reports address := by
  refine ⟨origin.key, rfl, ?_⟩
  rw [known.key_eq, String.toList_ofList]
  exact denotes_text address

/-- The key of a request whose headers give an address is the canonical text of that address, whatever
else the request says. Two such requests share their key exactly if they give the same address, however
it is spelled; and the key, put into any request as its first header, or as its second one where the
first gives nothing, is the key of that request. A header that gives no address might as well be
missing. -/
theorem key_identifies (origin : Origin) :
    (∀ address, origin.IsKnownAs address → origin.key = String.ofList address.text) ∧
      (∀ address (other : Origin) otherAddress,
        origin.IsKnownAs address → other.IsKnownAs otherAddress →
          (origin.key = other.key ↔ address = otherAddress)) ∧
      (∀ address, origin.IsKnownAs address → ∀ other : Origin,
        { other with forwardedFor := some origin.key }.key = origin.key ∧
          ((∀ unusable, ¬other.Forwards unusable) →
            { other with realAddress := some origin.key }.key = origin.key)) ∧
      ((∀ address, ¬origin.Forwards address) →
        { origin with forwardedFor := none }.key = origin.key) ∧
      ((∀ address, ¬origin.Reports address) →
        { origin with realAddress := none }.key = origin.key) := by
  refine ⟨fun address known => known.key_eq, ?_, ?_, fun nothing => (key_of_not_forwards nothing).symm,
    fun nothing => (key_of_not_reports nothing).symm⟩
  · intro address other otherAddress known otherKnown
    rw [known.key_eq, otherKnown.key_eq, String.ofList_inj]
    exact Address.text_injective.eq_iff
  · intro address known other
    constructor
    · exact (key_of_forwards (forwards_key known other)).trans known.key_eq.symm
    · intro nothing
      have unread : ∀ unusable, ¬{ other with realAddress := some origin.key }.Forwards unusable :=
        nothing
      exact (key_of_reports unread (reports_key known other)).trans known.key_eq.symm

/-- One address in two spellings, in different headers, each beside a header that gives none. -/
theorem key_identifies_two_spellings :
    let behindProxies : Origin := ⟨some " 2001:DB8:0:0::1 , 10.0.0.2", some "not-an-ip", none⟩
    let direct : Origin := ⟨some "not-an-ip", some "2001:0db8::0.0.0.1", some "127.0.0.1:9"⟩
    behindProxies.key = "2001:db8::1" ∧ behindProxies.key = direct.key ∧
      { direct with forwardedFor := some behindProxies.key }.key = behindProxies.key ∧
      { direct with realAddress := some behindProxies.key }.key = behindProxies.key ∧
      { direct with forwardedFor := none }.key = direct.key ∧
      { behindProxies with realAddress := none }.key = behindProxies.key := by
  intro behindProxies direct
  let address : Address := .v6 [0x2001, 0xdb8, 0, 0, 0, 0, 0, 1] rfl
  have forwards : behindProxies.Forwards address :=
    ⟨_, rfl, Address.parse?_eq_some_iff.mp (by decide)⟩
  have reports : direct.Reports address := ⟨_, rfl, Address.parse?_eq_some_iff.mp (by decide)⟩
  have nowhere (other : Address) : ¬Denotes "not-an-ip".toList other := by
    intro denotes
    have read := Address.parse?_eq_some_iff.mpr denotes
    rw [show Address.parse? (Text.trim "not-an-ip".toList) = none by decide] at read
    cases read
  have silent : ∀ other, ¬direct.Forwards other := by
    rintro other ⟨value, same, denotes⟩
    cases same
    exact nowhere other denotes
  have unusable : ∀ other, ¬behindProxies.Reports other := by
    rintro other ⟨value, same, denotes⟩
    cases same
    exact nowhere other denotes
  obtain ⟨written, shared, readBack, -, withoutReal⟩ := key_identifies behindProxies
  obtain ⟨-, -, -, withoutForwarded, -⟩ := key_identifies direct
  obtain ⟨asFirst, asSecond⟩ := readBack address (.inl forwards) direct
  refine ⟨(written address (.inl forwards)).trans (by decide), ?_, asFirst, asSecond silent,
    withoutForwarded silent, withoutReal unusable⟩
  exact (shared address direct address (.inl forwards) (.inr ⟨silent, reports⟩)).mpr rfl

end Dashboard.RateLimit.Origin
