import Dashboard.Association
import Dashboard.Time.Instant

namespace Dashboard.Cache

/-- A value and the reading from which on it counts as absent. -/
structure Entry (α : Type) where
  value : α
  expiry : Instant
deriving Repr

def Entry.isExpired {α : Type} (entry : Entry α) (now : Instant) : Bool := entry.expiry ≤ now

/-- Entries in the order in which their keys came, and what look-ups and sweeps have found. These
counts have no bound; in 64 bits they would wrap only after `2 ^ 64` look-ups, which no run comes to. -/
structure Store (α : Type) where
  entries : List (String × Entry α)
  hits : Nat
  misses : Nat
  expired : Nat
deriving Repr

namespace Store

variable {α : Type}

def empty : Store α := ⟨[], 0, 0, 0⟩

/-- How long an entry lives whose own expiry no reading can hold. -/
def century : Duration := Duration.ofSeconds (100 * 365 * 24 * 3600)

/-- When a value stored now expires. There is no answer only when the clock is so late that even
the substitute for an expiry beyond all readings lies beyond them. -/
def expiry? (now : Instant) (ttl : Duration) : Option Instant :=
  match now.add? ttl with
  | some expiry => some expiry
  | none => now.add? century

def find? (store : Store α) (key : String) : Option (Entry α) := store.entries.lookup key

/-- Stores a value for a time to live, in place of what the key held. -/
def set? (store : Store α) (key : String) (value : α) (ttl : Duration) (now : Instant) :
    Option (Store α) :=
  (expiry? now ttl).map fun expiry =>
    { store with entries := Association.put key ⟨value, expiry⟩ store.entries }

/-- The live value of a key; every look-up counts as a hit or a miss. -/
def get (store : Store α) (key : String) (now : Instant) : Option α × Store α :=
  match store.find? key with
  | some entry =>
    if entry.isExpired now then (none, { store with misses := store.misses + 1 })
    else (some entry.value, { store with hits := store.hits + 1 })
  | none => (none, { store with misses := store.misses + 1 })

/-- The live value of a key, or else `value`, which is then stored for `ttl`. The answer tells
whether it was stored. -/
def getOrSet? (store : Store α) (key : String) (value : α) (ttl : Duration) (now : Instant) :
    Option ((α × Bool) × Store α) :=
  match store.get key now with
  | (some found, store) => some ((found, false), store)
  | (none, store) => (store.set? key value ttl now).map fun store => ((value, true), store)

def delete (store : Store α) (key : String) : Store α :=
  { store with entries := store.entries.filter fun present => present.1 ≠ key }

def clear (store : Store α) : Store α := { store with entries := [] }

/-- The number of entries, including expired ones that no sweep has dropped yet. -/
def size (store : Store α) : Nat := store.entries.length

/-- Drops what has expired and answers how much that was. -/
def sweep (store : Store α) (now : Instant) : Nat × Store α :=
  let kept := store.entries.filter fun present => !present.2.isExpired now
  let removed := store.entries.length - kept.length
  (removed, { store with entries := kept, expired := store.expired + removed })

end Store
end Dashboard.Cache
