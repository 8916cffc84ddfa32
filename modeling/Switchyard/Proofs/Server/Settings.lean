/-
  Switchyard.Proofs.Server.Settings
  ─────────────────────────────────
  The cache's settings under a configuration file that is edited.  The file is
  read when the server is made, and once more when the watch on it starts; from
  then on every report has it read again, and what is forwarded is applied.  The
  watch takes the text that it finds at its start for the one that the server was
  made with.

      Cache.IsSetBy   — the cache's settings are those of a section
      Site.applyAll   — a site to which some configurations were applied

  Main statements:

      applyAll_isSetBy     — the last configuration counts
      settings_current_iff — when the settings are those of the file
      Edits.edit_lost      — an edit between the two reads may never be applied
-/
import Switchyard.CommandLine
import Switchyard.Proofs.Config.Forwarding
import Switchyard.Proofs.Fallible

namespace Switchyard

open CommandLine Reloader

/-! ## §1. Settings. -/

/-- Two sections ask for the same switch and the same time to live. -/
def CacheConfig.SameSettings (a b : CacheConfig) : Prop :=
  a.enabled = b.enabled ∧ a.ttlSeconds = b.ttlSeconds

/-- The cache's switch and its time to live are those that a section asks for. -/
def Cache.IsSetBy (cache : Cache) (c : CacheConfig) : Prop :=
  cache.enabled = c.enabled ∧ cache.ttlSeconds = c.ttlSeconds

theorem Cache.ofConfig_isSetBy (c : CacheConfig) : (Cache.ofConfig c).IsSetBy c := ⟨rfl, rfl⟩

theorem Cache.IsSetBy.iff {cache : Cache} {a b : CacheConfig} (h : cache.IsSetBy a) :
    cache.IsSetBy b ↔ a.SameSettings b := by
  unfold IsSetBy CacheConfig.SameSettings
  rw [h.1, h.2]

theorem Duration.seconds_ofSeconds (n : Nat) : (Duration.ofSeconds n).seconds = n := by
  unfold ofSeconds seconds
  dsimp only
  omega

/-- A time to live in whole seconds is kept as it is. -/
theorem CacheConfig.seconds_ttl? (c : CacheConfig) :
    (c.ttl?.map Duration.seconds).getD 0 = c.ttlSeconds := by
  unfold ttl?
  by_cases hzero : c.ttlSeconds = 0
  · rw [if_pos hzero, hzero]
    rfl
  · rw [if_neg hzero, Option.map_some, Option.getD_some, Duration.seconds_ofSeconds]

/-! ## §2. Applying configurations. -/

namespace Site

variable {α ω : Type}

theorem applyConfig_isSetBy (s : Site (Context α ω)) (c : Config) :
    (s.applyConfig c).1.cache.IsSetBy c.cache := ⟨rfl, c.cache.seconds_ttl?⟩

/-- The site after some configurations were applied, one after the other. -/
def applyAll (s : Site (Context α ω)) (configs : List Config) : Site (Context α ω) :=
  configs.foldl (fun s c => (s.applyConfig c).1) s

/-- **The last configuration counts.** -/
theorem applyAll_isSetBy (s : Site (Context α ω)) {configs : List Config} {c : Config}
    (h : configs.getLast? = some c) : (s.applyAll configs).cache.IsSetBy c.cache := by
  obtain ⟨before, rfl⟩ := List.getLast?_eq_some_iff.mp h
  rw [applyAll, List.foldl_append]
  exact applyConfig_isSetBy _ c

end Site

/-! ## §3. From the file to the server. -/

/-- The flags leave the settings of the file as they are. -/
theorem CommandLine.Options.configure_of_file {o : Options}
    {read : String → Except FileError String} {path : String} {config : Config}
    (hfile : o.config? = some path) (h : o.configure read = .ok config) :
    ∃ text c, read path = .ok text ∧ Config.parse text = .ok c ∧ config.cache = c.cache := by
  unfold configure at h
  rw [hfile] at h
  obtain ⟨base, hbase, h⟩ := of_bind_eq_ok h
  have hconfig : o.override base = config := by
    dsimp only at h
    split at h
    · exact Except.ok.inj h
    · exact absurd h (by simp)
  have hofFile := of_mapError_eq_ok hbase
  cases hread : read path with
  | error e =>
      rw [hread] at hofFile
      exact absurd hofFile (by simp [Config.ofFile])
  | ok text =>
      rw [hread] at hofFile
      exact ⟨text, base, rfl, hofFile, by rw [← hconfig]; rfl⟩

/-- The site of a server that follows the file at a path: it was made with a
configuration, the watch found `watched` when it started, and all that was forwarded
since is applied. -/
def Server.followedSite {α ω : Type} (s : Server α ω) (path : String)
    (watched : Except FileError String) (ss : List Sighting) : Site (Context α ω) :=
  s.site.applyAll ((Reloader.start path watched).follow true ss).1

/-- **When the settings are those of the file.**  Let a server be made from a file,
whatever the flags, and let the watch on the file find `watched` at its start.
After any reports, and one that shows a valid text, the cache has the settings of
that text; unless it is what the watch had found at its start, and no other valid
text was seen since: then the cache has the settings that it was made with.  So
where the watch starts with the text that was loaded, the settings are always those
of the file. -/
theorem settings_current_iff {α ω : Type} (o : Options)
    (read : String → Except FileError String) (path : String) {loaded text : String}
    {config c : Config} (routes : RouteTable (Endpoint α)) (files : FileSystem) (app : ω)
    (watched : Except FileError String) (before : List Sighting) (s : Sighting)
    (hfile : o.config? = some path) (hread : read path = .ok loaded)
    (hload : o.configure read = .ok config)
    (hs : s.version? path = some text) (hparse : Config.parse text = .ok c) :
    ∃ first, Config.parse loaded = .ok first
      ∧ (((Server.new config routes files app).followedSite path watched
            (before ++ [s])).cache.IsSetBy c.cache
          ↔ (watched = .ok text → (∀ t ∈ versions path before, t = text) →
            first.cache.SameSettings c.cache))
      ∧ (watched = .ok loaded → ((Server.new config routes files app).followedSite path watched
          (before ++ [s])).cache.IsSetBy c.cache) := by
  obtain ⟨loaded', first, hread', hfirst, hcache⟩ := Options.configure_of_file hfile hload
  obtain rfl : loaded = loaded' := Except.ok.inj (hread.symm.trans hread')
  refine ⟨first, hfirst, ?_⟩
  have hmade : (Server.new config routes files app).site.cache.IsSetBy first.cache :=
    hcache ▸ Cache.ofConfig_isSetBy config.cache
  have hversions : versions path (before ++ [s]) = versions path before ++ [text] :=
    versions_append_of_some hs before []
  have hstart : (Reloader.start path watched).lastApplied = watched.toOption := rfl
  have hcases := (Reloader.start path watched).follow_cases (before ++ [s])
  simp only [show (Reloader.start path watched).path = path from rfl, hversions, hstart] at hcases
  unfold Server.followedSite
  rcases hcases with ⟨hnone, hall⟩ | ⟨text', c', hlast, hparse', hc', other, hother, hne⟩
  · -- Nothing was forwarded: all valid texts were the one that the watch began with.
    have hwatched : watched = .ok text := eq_ok_of_toOption (hall text (by simp))
    have hsame (t : String) (ht : t ∈ versions path before) : t = text := by
      have hseen := eq_ok_of_toOption (hall t (by simp [ht]))
      exact Except.ok.inj (hseen.symm.trans hwatched)
    rw [hnone]
    refine ⟨⟨fun h _ _ => hmade.iff.mp h, fun h => hmade.iff.mpr (h hwatched hsame)⟩, ?_⟩
    intro hunedited
    obtain rfl := Except.ok.inj (hwatched.symm.trans hunedited)
    obtain rfl := Except.ok.inj (hparse.symm.trans hfirst)
    exact hmade
  · -- Something was forwarded, and what came last is what the file holds now.
    rw [List.getLast?_concat] at hlast
    obtain rfl := Option.some.inj hlast
    obtain rfl := Except.ok.inj (hparse.symm.trans hparse')
    have hset := (Server.new config routes files app).site.applyAll_isSetBy hc'
    refine ⟨iff_of_true hset fun hwatched hsame => ?_, fun _ => hset⟩
    have hother : other = text := by
      rcases List.mem_append.mp hother with hbefore | hlast
      · exact hsame other hbefore
      · exact List.mem_singleton.mp hlast
    exact absurd (by rw [hwatched, hother]; rfl) hne

/-! ## §4. Edits. -/

namespace Edits

/-- The file is saved with a text. -/
def saved (text : String) : Sighting := ⟨.event .modified ["server.toml"], .ok text⟩

/-- A file that switches the cache off. -/
def switchedOff : String := "[cache]\nenabled = false\n"

/-- A file that limits how long answers are kept. -/
def limited : String := "[cache]\nttl_secs = 30\n"

/-- A server without routes of an application. -/
def serverOf (config : Config) : Server Unit Unit := .new config .empty .empty ()

/-- The watch starts when the cache was switched off already; the file is saved so
again, then broken, and at last with a time to live, which takes effect. -/
theorem limited_current :
    ∃ config, ({ config? := some "server.toml", debug := true } : Options).configure
        (fun _ => .ok "") = .ok config
      ∧ ((serverOf config).followedSite "server.toml" (.ok switchedOff)
          ([saved switchedOff, saved "[cache"] ++ [saved limited])).cache.IsSetBy
        { ttlSeconds := 30 } := by
  have hload : ({ config? := some "server.toml", debug := true } : Options).configure
      (fun _ => .ok "") = .ok { debug := true } := by
    decide +kernel
  have hs : (saved limited).version? "server.toml" = some limited := by
    decide +kernel
  have hparse : Config.parse limited = .ok { cache := { ttlSeconds := 30 } } := by
    decide +kernel
  obtain ⟨first, -, hiff, -⟩ :=
    settings_current_iff { config? := some "server.toml", debug := true } (fun _ => .ok "")
      "server.toml" (.empty : RouteTable (Endpoint Unit)) .empty () (.ok switchedOff)
      [saved switchedOff, saved "[cache"] (saved limited) rfl rfl hload hs hparse
  refine ⟨_, hload, hiff.mpr fun hsame => ?_⟩
  have hother : switchedOff ≠ limited := by
    decide +kernel
  exact absurd (Except.ok.inj hsame) hother

/-- **An edit is lost.**  The file is loaded with the cache on; the cache is switched
off in it before the watch starts, and the file is saved so again.  Its text is
valid, but the cache stays on. -/
theorem edit_lost :
    ({ config? := some "server.toml" } : Options).configure (fun _ => .ok "") = .ok {}
      ∧ (saved switchedOff).version? "server.toml" = some switchedOff
      ∧ Config.parse switchedOff = .ok { cache := { enabled := false } }
      ∧ ((serverOf {}).followedSite "server.toml" (.ok switchedOff)
          [saved switchedOff]).cache.enabled = true := by
  decide +kernel

end Edits

end Switchyard
