/-
  Switchyard.Site.Upkeep
  ──────────────────────
  What a server does to its site apart from answering requests: it takes over
  a new configuration while it runs, and carries the cache from one run to the
  next in a snapshot file.
-/
import Switchyard.Cache.Snapshot
import Switchyard.Site.Context

namespace Switchyard

variable {α ω : Type}

/-- Whether two configurations agree in what is fixed while a server runs. -/
def Config.sameWhileRunning (c d : Config) : Bool :=
  c.listener.port = d.listener.port ∧ c.listener.host = d.listener.host
    ∧ c.workers.count = d.workers.count ∧ c.workers.queueCapacity = d.workers.queueCapacity

namespace Site

/-- Takes over what a running server can change: the cache's switch and its
time to live. -/
def applyConfig (s : Site (Context α ω)) (new : Config) : Site (Context α ω) × List Event :=
  ({ s with cache := (s.cache.setEnabled new.cache.enabled).setTtl new.cache.ttl? },
    if new.sameWhileRunning s.world.config then [] else [.restartNeeded])

/-- Fills the cache from its snapshot.  A snapshot that cannot be loaded is
reported, and the cache stays as it was. -/
def warm (s : Site (Context α ω)) (now : Nat) : Site (Context α ω) × List Event :=
  match s.cache.load s.world.files now with
  | .ok (_, cache) => ({ s with cache }, [])
  | .error _ => (s, [.coldStart (s.cache.snapshotPath?.getD "")])

/-- Saves the cache's snapshot.  Tells how many entries it holds. -/
def save (s : Site (Context α ω)) : Except FileError Nat × Site (Context α ω) :=
  let (done, files) := s.cache.save s.world.files
  (done, { s with world := { s.world with files } })

end Site

end Switchyard
