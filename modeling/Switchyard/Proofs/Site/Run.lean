/-
  Switchyard.Proofs.Site.Run
  ──────────────────────────
  A site over whole runs: requests are dispatched and the cache is changed from
  outside, in any order.  A service keeps, beside the site, the exchanges so
  far, each with what became of the request and how its handler ended.

      Answering  — all that one dispatch can do
      answering  — and every dispatch does one of these
      Page       — a small site, for runs on given requests
-/
import Switchyard.Proofs.Cache.Operations
import Switchyard.Site.Dispatch

namespace Switchyard

variable {η ω : Type}

/-! ## §1. Asking the cache on the way. -/

theorem Binding.cacheKey?_eq_some {b : Binding η} {params : Params} {a : Arrival}
    {k : CacheKey} (h : b.cacheKey? params a = some k) :
    b.cacheable = true ∧ a.method.isRead = true ∧ k = .new b.name params a.query := by
  unfold cacheKey? at h
  split at h
  · next hc =>
      rw [Bool.and_eq_true] at hc
      exact ⟨hc.1, hc.2, (Option.some.inj h).symm⟩
  · simp at h

namespace Cache

theorem lookUp_trims (c : Cache) (key? : Option CacheKey) (now : Nat) :
    c.Trims (c.lookUp key? now).2 now := by
  cases key? with
  | none => exact .of_entries_eq rfl rfl rfl rfl
  | some k => exact get_trims c k now

/-- An entry that is found is one that the cache holds under the key. -/
theorem lookUp_eq_some {c : Cache} {key? : Option CacheKey} {now : Nat} {e : Entry}
    (h : (c.lookUp key? now).1 = some e) :
    ∃ k, key? = some k ∧ c.entries.get? k = some e := by
  cases key? with
  | none => simp [lookUp] at h
  | some k => exact ⟨k, rfl, (get_eq_some_iff.mp h).2.1⟩

/-- After a key was looked up in vain nothing is left under it. -/
theorem get?_lookUp_of_none {c : Cache} {k : CacheKey} {now : Nat} (hc : c.EmptyWhenOff)
    (h : (c.lookUp (some k) now).1 = none) :
    (c.lookUp (some k) now).2.entries.get? k = none := by
  cases hon : c.enabled with
  | true => exact get?_get_of_none hon h
  | false =>
      have htrim := lookUp_trims c (some k) now
      exact (hc.trims htrim).get?_eq_none (htrim.enabled.trans hon) k

/-- A cache that is off finds nothing. -/
theorem lookUp_of_off {c : Cache} (hoff : c.enabled = false) (key? : Option CacheKey)
    (now : Nat) : c.lookUp key? now = (none, c) := by
  cases key? with
  | none => rfl
  | some k => simp [lookUp, get_of_off hoff]

theorem keep_emptyWhenOff {c : Cache} (hc : c.EmptyWhenOff) (key? : Option CacheKey)
    (r : Response) (t : Readings) : (c.keep key? r t).EmptyWhenOff := by
  unfold keep
  cases key? with
  | none => exact hc
  | some k =>
      show (if r.status.isSuccess = true then _ else c).EmptyWhenOff
      split
      · exact hc.put _ _ _
      · exact hc

/-- An entry that the cache holds after an answer was kept is that answer, a
success under its key, or was there before. -/
theorem get?_keep {c : Cache} {key? : Option CacheKey} {r : Response} {t : Readings}
    {k : CacheKey} {e : Entry} (h : (c.keep key? r t).entries.get? k = some e) :
    (key? = some k ∧ r.status.isSuccess = true ∧ e.response = r)
      ∨ c.entries.get? k = some e := by
  unfold keep at h
  cases key? with
  | none => exact Or.inr h
  | some k' =>
      by_cases hs : r.status.isSuccess = true
      · have hput : (c.put k' ⟨r, t.created⟩ t.stored).entries.get? k = some e := by
          simpa [hs] using h
        rcases get?_put hput with ⟨rfl, rfl⟩ | hold
        · exact Or.inl ⟨rfl, hs, rfl⟩
        · exact Or.inr hold
      · right
        simpa [hs] using h

/-- Keeping an answer does not touch the switch. -/
theorem keep_enabled (c : Cache) (key? : Option CacheKey) (r : Response) (t : Readings) :
    (c.keep key? r t).enabled = c.enabled := by
  unfold keep
  cases key? with
  | none => rfl
  | some k =>
      show (if r.status.isSuccess = true then _ else c).enabled = _
      split
      · exact (put_config _ _ _ _).1
      · rfl

end Cache

/-! ## §2. Answers from the cache. -/

namespace Entry

theorem hit_status (e : Entry) : e.hit.status = e.response.status := rfl

theorem hit_body (e : Entry) : e.hit.body = e.response.body := rfl

/-- An answer from the cache has the headers of the stored one, but for the
mark that tells where it comes from. -/
theorem hit_values (e : Entry) (n : HeaderName) :
    e.hit.headers.values n
      = if n = .xCache then [HeaderValue.ofString "HIT"] else e.response.headers.values n := by
  show ((Headers.empty.override e.response.headers).set .xCache (.ofString "HIT")).values n = _
  rw [Headers.values_set, Headers.values_override]
  by_cases hn : n = .xCache
  · rw [if_pos hn.symm, if_pos hn]
  · rw [if_neg (Ne.symm hn), if_neg hn]
    -- Overriding no headers at all gives the stored ones.
    split
    · next hnil =>
        rw [hnil]
        rfl
    · rfl

end Entry

/-! ## §3. Services. -/

/-- What a site is to do next: answer a request, with what the clock shows
meanwhile, or have its cache changed. -/
inductive Turn where
  | answer (a : Arrival) (t : Readings)
  | change (ch : Cache.Change)

def Turn.isAnswer : Turn → Bool
  | .answer .. => true
  | .change _ => false

/-- A request that was dispatched. -/
structure Exchange (η : Type) where
  arrival : Arrival
  course : Course η
  /-- How the handler ended, if one ran. -/
  outcome? : Option Outcome
  response : Response

/-- The key under which the handler's answer was to be kept, if a handler ran
and its answers may be kept. -/
def Exchange.key? (x : Exchange η) : Option CacheKey :=
  match x.course with
  | .handler _ _ key? => key?
  | _ => none

/-- A site with the exchanges so far, the newest first. -/
structure Service (η ω : Type) where
  site : Site ω
  past : List (Exchange η)

/-- A service whose cache is new. -/
def Service.start (config : CacheConfig) (world : ω) : Service η ω :=
  ⟨⟨Cache.ofConfig config, world⟩, []⟩

variable (handle : Handling η ω) (routes : RouteTable η) (limit : Nat)

/-- How the handler ends that a course leads to, if there is one. -/
def Course.outcome? (site : Site ω) : Course η → Option Outcome
  | .handler binding request _ => some (handle binding.handler request site).outcome
  | _ => none

/-- A request as it is dispatched to a site. -/
def exchange (a : Arrival) (t : Readings) (site : Site ω) : Exchange η :=
  let (course, cache) := course routes limit a t.lookup site.cache
  { arrival := a, course
    outcome? := course.outcome? handle { site with cache }
    response := (dispatch handle routes limit a t site).response }

namespace Service

def turn (s : Service η ω) : Turn → Service η ω
  | .answer a t =>
      ⟨(dispatch handle routes limit a t s.site).site,
        exchange handle routes limit a t s.site :: s.past⟩
  | .change ch => { s with site := { s.site with cache := s.site.cache.change ch } }

def run (s : Service η ω) (turns : List Turn) : Service η ω :=
  turns.foldl (turn handle routes limit) s

/-- The responses so far, the newest first. -/
def responses (s : Service η ω) : List Response := s.past.map Exchange.response

end Service

/-! ## §4. All that a dispatch can do. -/

/-- What dispatching a request to `site` did, `site'` being the site after it
and `x` the exchange. -/
inductive Answering (a : Arrival) (t : Readings) (site site' : Site ω) (x : Exchange η) :
    Prop where
  /-- No binding accepted it. -/
  | unmatched (resolved : routes.resolve? a.method a.path = none)
      (course_eq : x.course = .unmatched) (response_eq : x.response = .notFound)
      (site_eq : site' = site)
  /-- The cache answered it. -/
  | hit (binding : Binding η) (params : Params) (e : Entry)
      (resolved : routes.resolve? a.method a.path = some (binding, params))
      (found : (site.cache.lookUp (binding.cacheKey? params a) t.lookup).1 = some e)
      (course_eq : x.course = .hit e) (response_eq : x.response = e.hit)
      (site_eq : site' = { site with
        cache := (site.cache.lookUp (binding.cacheKey? params a) t.lookup).2 })
  /-- Its body could not be read. -/
  | refused (binding : Binding η) (params : Params) (error : BodyError)
      (resolved : routes.resolve? a.method a.path = some (binding, params))
      (missed : (site.cache.lookUp (binding.cacheKey? params a) t.lookup).1 = none)
      (unread : readBody limit a.body = .error error)
      (course_eq : x.course = .refused error) (response_eq : x.response = error.response)
      (site_eq : site' = { site with
        cache := (site.cache.lookUp (binding.cacheKey? params a) t.lookup).2 })
  /-- A handler answered it. -/
  | handled (binding : Binding η) (params : Params) (body : Bytes) (done : Handled ω)
      (resolved : routes.resolve? a.method a.path = some (binding, params))
      (missed : (site.cache.lookUp (binding.cacheKey? params a) t.lookup).1 = none)
      (read : readBody limit a.body = .ok body)
      (ran : done = handle binding.handler (a.toRequest params body) { site with
        cache := (site.cache.lookUp (binding.cacheKey? params a) t.lookup).2 })
      (course_eq : x.course
        = .handler binding (a.toRequest params body) (binding.cacheKey? params a))
      (outcome_eq : x.outcome? = some done.outcome)
      (response_eq : x.response = done.outcome.response)
      (site_eq : site' = { done.site with
        cache := done.site.cache.keep (binding.cacheKey? params a) x.response t })

/-- **Every dispatch does one of these.** -/
theorem answering (a : Arrival) (t : Readings) (site : Site ω) :
    Answering handle routes limit a t site (dispatch handle routes limit a t site).site
      (exchange handle routes limit a t site) := by
  -- What decides the course is looked at in the order in which `course` does.
  cases hr : routes.resolve? a.method a.path with
  | none =>
      have hc : course routes limit a t.lookup site.cache = (.unmatched, site.cache) := by
        simp [course, hr]
      exact .unmatched hr (by simp [exchange, hc]) (by simp [exchange, dispatch, hc])
        (by simp [dispatch, hc])
  | some resolved =>
      obtain ⟨binding, params⟩ := resolved
      cases hl : site.cache.lookUp (binding.cacheKey? params a) t.lookup with
      | mk found? cache =>
      cases found? with
      | some e =>
          have hc : course routes limit a t.lookup site.cache = (.hit e, cache) := by
            simp [course, hr, hl]
          exact .hit binding params e hr (by rw [hl]) (by simp [exchange, hc])
            (by simp [exchange, dispatch, hc]) (by simp [dispatch, hc, hl])
      | none =>
          cases hb : readBody limit a.body with
          | error error =>
              have hc : course routes limit a t.lookup site.cache = (.refused error, cache) := by
                simp [course, hr, hl, hb]
              exact .refused binding params error hr (by rw [hl]) hb (by simp [exchange, hc])
                (by simp [exchange, dispatch, hc]) (by simp [dispatch, hc, hl])
          | ok body =>
              have hc : course routes limit a t.lookup site.cache
                  = (.handler binding (a.toRequest params body) (binding.cacheKey? params a),
                    cache) := by
                simp [course, hr, hl, hb]
              exact .handled binding params body
                (handle binding.handler (a.toRequest params body) { site with cache }) hr
                (by rw [hl]) hb (by rw [hl]) (by simp [exchange, hc])
                (by simp [exchange, hc, Course.outcome?]) (by simp [exchange, dispatch, hc])
                (by simp [exchange, dispatch, hc])

/-! ## §5. A site with two pages. -/

/-- The pages of a small site. -/
inductive Page where
  /-- Greets whoever is named. -/
  | hello
  /-- Tells how often it was asked before. -/
  | visits

namespace Page

/-- A greeting is the same every time, and bears a mark of its own. -/
def act : Page → Request → Nat → Outcome × Nat
  | .hello, r, n =>
      (.reply ((Response.new .ok (Utf8.encode ((r.param "name").getD ""))).withHeader .xCache
        (.ofString "MISS")), n)
  | .visits, _, n => (.reply (.new .ok [n.toUInt8]), n + 1)

/-- Greetings may be cached. -/
def table : RouteTable Page :=
  ⟨[{ pattern := ⟨"hello/<name>", [.literal "hello", .capture "name"], .closed⟩
      handler := .hello, methods := .any, cacheable := true, name := "hello", isNamed := true },
    { pattern := ⟨"visits", [.literal "visits"], .closed⟩
      handler := .visits, methods := .any, cacheable := false, name := "visits", isNamed := true }]⟩

/-- A request without a body. -/
def ask (method : Method) (path : String) : Arrival := { (default : Arrival) with method, path }

end Page

end Switchyard
