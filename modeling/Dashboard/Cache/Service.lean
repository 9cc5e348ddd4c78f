import Dashboard.Background.Sweepers
import Dashboard.Cache.Store

namespace Dashboard.Cache

/-- The time to live of a plain store, and how often the sweeper runs. -/
structure Settings where
  defaultTtl : Duration
  sweepInterval : Duration
deriving DecidableEq, Repr

/-- Entries live for five minutes and are swept once a minute. -/
def Settings.standard : Settings := ⟨Duration.ofSeconds 300, Duration.ofSeconds 60⟩

structure Service (α : Type) where
  settings : Settings
  store : Store α
  sweepers : Background.Sweepers

namespace Service

variable {α : Type}

def start (settings : Settings) : Service α := ⟨settings, .empty, .none⟩

def setFor? (service : Service α) (key : String) (value : α) (ttl : Duration) (now : Instant) :
    Option (Service α) :=
  (service.store.set? key value ttl now).map fun store => { service with store := store }

def set? (service : Service α) (key : String) (value : α) (now : Instant) : Option (Service α) :=
  service.setFor? key value service.settings.defaultTtl now

def get (service : Service α) (key : String) (now : Instant) : Option α × Service α :=
  let (found, store) := service.store.get key now
  (found, { service with store := store })

def getOrSet? (service : Service α) (key : String) (value : α) (now : Instant) :
    Option ((α × Bool) × Service α) :=
  (service.store.getOrSet? key value service.settings.defaultTtl now).map fun (answer, store) =>
    (answer, { service with store := store })

def delete (service : Service α) (key : String) : Service α :=
  { service with store := service.store.delete key }

def clear (service : Service α) : Service α := { service with store := service.store.clear }

def sweep (service : Service α) (now : Instant) : Nat × Service α × List Log.Record :=
  let (removed, store) := service.store.sweep now
  (removed, { service with store := store },
    if removed = 0 then []
    else [⟨.cache, .debug, "Swept " ++ toString removed ++ " expired entries (" ++
      toString store.size ++ " remaining)"⟩])

def spawnSweeper (service : Service α) (now : Instant) : Service α :=
  { service with
    sweepers := service.sweepers.spawn
      (.start "cache_sweeper" .cache service.settings.sweepInterval now) }

def stopSweeper (service : Service α) : Service α × List Log.Record :=
  let (records, sweepers) := service.sweepers.stop
  ({ service with sweepers := sweepers }, records)

def sweepMany (service : Service α) (now : Instant) : Nat → Service α × List Log.Record
  | 0 => (service, [])
  | times + 1 =>
    let (service, records) := sweepMany service now times
    let (_, service, more) := service.sweep now
    (service, records ++ more)

def run (service : Service α) (wheel : Background.Wheel) (now : Instant) :
    Service α × List Log.Record :=
  let (ticks, sweepers) := service.sweepers.run wheel now
  { service with sweepers := sweepers }.sweepMany now ticks

def diagnostic (service : Service α) : String :=
  "TtlCache \x7b entries: " ++ toString service.store.size ++
    ", config: CacheConfig \x7b default_ttl: " ++ service.settings.defaultTtl.text ++
    ", sweep_interval: " ++ service.settings.sweepInterval.text ++ " \x7d \x7d"

end Service
end Dashboard.Cache
