/-
  Switchyard.Proofs.Site.Effects
  ──────────────────────────────
  What one dispatch may do.  A handler runs at most once, on the whole body of a
  request that the cache does not answer; the cache changes under the key of the
  request, and elsewhere it loses expired entries at most.

      noting, runsOf — handlers that note down how they run, and what they note
      Cached, Missed — whether the cache answers a request
      Treats         — all ways to treat a request

  Main statements:

      dispatch_noting    — noting runs down changes nothing else
      dispatch_treats    — every dispatch treats its request in one of these ways
      dispatch_trimsAt   — what it does under the other keys
      dispatch_own_entry — and under the request's own
      dispatch_effects
      Page.cutShort_too_large — another limit on the length counts as this one
-/
import Switchyard.Proofs.Http.Body
import Switchyard.Proofs.Site.Provenance

namespace Switchyard

variable {η ω : Type}

/-! ## §1. Handlers that note down how they run. -/

/-- One run of a handler: whose it was, what it saw and how it ended. -/
structure Run (η : Type) where
  handler : η
  request : Request
  outcome : Outcome

/-- The same handlers, noting down each run beside the world. -/
def Handling.noting (handle : Handling η ω) : Handling η (ω × List (Run η)) :=
  fun handler request site =>
    let done := handle handler request ⟨site.cache, site.world.1⟩
    { outcome := done.outcome
      site := ⟨done.site.cache, done.site.world, site.world.2 ++ [⟨handler, request, done.outcome⟩]⟩
      events := done.events }

variable (handle : Handling η ω) (routes : RouteTable η) (limit : Nat)

/-- The runs of handlers in a dispatch, in order. -/
def runsOf (a : Arrival) (t : Readings) (site : Site ω) : List (Run η) :=
  (dispatch handle.noting routes limit a t ⟨site.cache, site.world, []⟩).site.world.2

/-- Noting down changes nothing else. -/
theorem dispatch_noting (a : Arrival) (t : Readings) (site : Site ω) :
    let noted := dispatch handle.noting routes limit a t ⟨site.cache, site.world, []⟩
    let d := dispatch handle routes limit a t site
    noted.response = d.response ∧ noted.events = d.events ∧ noted.site.cache = d.site.cache
      ∧ noted.site.world.1 = d.site.world := by
  unfold dispatch
  -- The course is decided before any handler runs, so both take the same one.
  rcases course routes limit a t.lookup site.cache with ⟨course, cache⟩
  cases course with
  | unmatched | hit | refused | handler => exact ⟨rfl, rfl, rfl, rfl⟩

/-- Handlers run where the course of a request leads to one, and only once. -/
theorem runsOf_eq (a : Arrival) (t : Readings) (site : Site ω) :
    runsOf handle routes limit a t site
      = match (exchange handle routes limit a t site).course,
          (exchange handle routes limit a t site).outcome? with
        | .handler binding request _, some outcome => [⟨binding.handler, request, outcome⟩]
        | _, _ => [] := by
  unfold runsOf dispatch exchange
  rcases course routes limit a t.lookup site.cache with ⟨course, cache⟩
  cases course with
  | unmatched | hit | refused | handler => rfl

/-! ## §2. Whether the cache answers. -/

/-- The cache has a live entry under the key of the request, and the binding and
the method are such that it is asked. -/
def Cached (a : Arrival) (now : Nat) (cache : Cache) (e : Entry) : Prop :=
  ∃ b params, routes.resolve? a.method a.path = some (b, params)
    ∧ b.cacheable = true ∧ (a.method = .get ∨ a.method = .head) ∧ cache.enabled = true
    ∧ cache.entries.get? (.new b.name params a.query) = some e
    ∧ e.isExpired cache.ttl? now = false

/-- The request has a binding, and the cache does not answer it. -/
def Missed (a : Arrival) (now : Nat) (cache : Cache) (b : Binding η) (params : Params) : Prop :=
  routes.resolve? a.method a.path = some (b, params) ∧ ∀ e, ¬ Cached routes a now cache e

theorem Binding.cacheKey?_eq_some_iff {b : Binding η} {params : Params} {a : Arrival}
    {k : CacheKey} :
    b.cacheKey? params a = some k ↔ b.cacheable = true ∧ (a.method = .get ∨ a.method = .head)
      ∧ k = .new b.name params a.query := by
  have hread : a.method.isRead = true ↔ (a.method = .get ∨ a.method = .head) :=
    decide_eq_true_iff
  constructor
  · intro hkey
    obtain ⟨hcacheable, hmethod, hk⟩ := cacheKey?_eq_some hkey
    exact ⟨hcacheable, hread.mp hmethod, hk⟩
  · rintro ⟨hcacheable, hmethod, rfl⟩
    unfold cacheKey?
    rw [if_pos (by rw [hcacheable, hread.mpr hmethod]; rfl)]

/-- The cache answers with what looking up the request's key finds. -/
theorem cached_iff {routes : RouteTable η} {a : Arrival} {now : Nat} {cache : Cache}
    {b : Binding η} {params : Params} {e : Entry}
    (hroute : routes.resolve? a.method a.path = some (b, params)) :
    Cached routes a now cache e ↔ (cache.lookUp (b.cacheKey? params a) now).1 = some e := by
  constructor
  · rintro ⟨b', params', hroute', hcacheable, hmethod, hon, hheld, hlive⟩
    obtain ⟨rfl, rfl⟩ := Prod.mk.inj (Option.some.inj (hroute'.symm.trans hroute))
    rw [Binding.cacheKey?_eq_some_iff.mpr ⟨hcacheable, hmethod, rfl⟩]
    exact Cache.get_eq_some_iff.mpr ⟨hon, hheld, hlive⟩
  · intro hfound
    cases hkey : b.cacheKey? params a with
    | none =>
        rw [hkey] at hfound
        exact absurd hfound (by simp [Cache.lookUp])
    | some k =>
        rw [hkey] at hfound
        obtain ⟨hcacheable, hmethod, rfl⟩ := Binding.cacheKey?_eq_some_iff.mp hkey
        obtain ⟨hon, hheld, hlive⟩ := Cache.get_eq_some_iff.mp hfound
        exact ⟨b, params, hroute, hcacheable, hmethod, hon, hheld, hlive⟩

theorem missed_of_lookUp {routes : RouteTable η} {a : Arrival} {now : Nat} {cache : Cache}
    {b : Binding η} {params : Params}
    (hroute : routes.resolve? a.method a.path = some (b, params))
    (hmissed : (cache.lookUp (b.cacheKey? params a) now).1 = none) :
    Missed routes a now cache b params := by
  refine ⟨hroute, fun e hcached => ?_⟩
  rw [(cached_iff hroute).mp hcached] at hmissed
  exact absurd hmissed (by simp)

/-! ## §3. What becomes of the request. -/

/-- The ways to treat a request that comes to a cache at a time: which handlers
run, and what the answer is. -/
inductive Treats (a : Arrival) (now : Nat) (cache : Cache) : List (Run η) → Response → Prop where
  /-- No binding accepts it. -/
  | unmatched (h : routes.resolve? a.method a.path = none) :
      Treats a now cache [] (.ofStatus .notFound)
  /-- The cache answers it. -/
  | cached {e : Entry} (h : Cached routes a now cache e) : Treats a now cache [] e.hit
  /-- What arrives of its body, before it breaks off if it does, is over the limit. -/
  | tooLarge {b : Binding η} {params : Params} {pieces : List Bytes} {rest : List Chunk}
      (missed : Missed routes a now cache b params) (body : a.body = pieces.map .data ++ rest)
      (long : limit < pieces.flatten.length) :
      Treats a now cache [] (.ofStatus .payloadTooLarge)
  /-- Its body breaks off within the limit, and behind the error is another limit
  on the length. -/
  | cutShort {b : Binding η} {params : Params} {pieces : List Bytes} {error : BodyError}
      {rest : List Chunk} (missed : Missed routes a now cache b params)
      (body : a.body = pieces.map .data ++ .broken error :: rest)
      (within : pieces.flatten.length ≤ limit) (length : .lengthLimit ∈ error.chain) :
      Treats a now cache [] (.ofStatus .payloadTooLarge)
  /-- Its body breaks off within the limit, and no limit is behind the error. -/
  | broken {b : Binding η} {params : Params} {pieces : List Bytes} {error : BodyError}
      {rest : List Chunk} (missed : Missed routes a now cache b params)
      (body : a.body = pieces.map .data ++ .broken error :: rest)
      (within : pieces.flatten.length ≤ limit) (other : .lengthLimit ∉ error.chain) :
      Treats a now cache [] (.ofStatus .badRequest)
  /-- Its body arrives whole and is within the limit, and the handler sees it. -/
  | handled {b : Binding η} {params : Params} {pieces : List Bytes}
      (missed : Missed routes a now cache b params) (body : a.body = pieces.map .data)
      (within : pieces.flatten.length ≤ limit) (o : Outcome) :
      Treats a now cache [⟨b.handler, a.toRequest params pieces.flatten, o⟩] o.response

/-- **Every dispatch treats its request in one of these ways.** -/
theorem dispatch_treats (a : Arrival) (t : Readings) (site : Site ω) :
    Treats routes limit a t.lookup site.cache (runsOf handle routes limit a t site)
      (dispatch handle routes limit a t site).response := by
  have hx := answering handle routes limit a t site
  have hruns := runsOf_eq handle routes limit a t site
  have hresponse : (exchange handle routes limit a t site).response
      = (dispatch handle routes limit a t site).response := rfl
  rw [hruns, ← hresponse]
  generalize exchange handle routes limit a t site = x at hx
  cases hx with
  | unmatched resolved course_eq response_eq =>
      rw [course_eq, response_eq]
      exact .unmatched resolved
  | hit b params e resolved found course_eq response_eq =>
      rw [course_eq, response_eq]
      exact .cached ((cached_iff resolved).mpr found)
  | refused b params error resolved missed unread course_eq response_eq =>
      -- How far the body got tells which of the two answers it is.
      have hmissed := missed_of_lookUp resolved missed
      rw [course_eq, response_eq]
      rcases readBody_cases limit a.body with
        ⟨_, _, _, hread⟩ | ⟨pieces, rest, hbody, hover, hread⟩
          | ⟨pieces, error', rest, hbody, hfits, hread⟩
      · exact absurd (unread.symm.trans hread) (by simp)
      · obtain rfl : error = .lengthLimit := Except.error.inj (unread.symm.trans hread)
        exact .tooLarge hmissed hbody hover
      · obtain rfl : error = error' := Except.error.inj (unread.symm.trans hread)
        unfold BodyError.response
        by_cases hlength : error.isLengthLimit = true
        · rw [if_pos hlength]
          exact .cutShort hmissed hbody hfits (error.isLengthLimit_iff.mp hlength)
        · rw [if_neg hlength]
          exact .broken hmissed hbody hfits (mt error.isLengthLimit_iff.mpr hlength)
  | handled b params body done resolved missed read _ course_eq outcome_eq response_eq =>
      have hmissed := missed_of_lookUp resolved missed
      rw [course_eq, outcome_eq, response_eq]
      rcases readBody_cases limit a.body with
        ⟨pieces, hbody, hfits, hread⟩ | ⟨_, _, _, _, hread⟩ | ⟨_, _, _, _, _, hread⟩
      · obtain rfl : body = pieces.flatten := Except.ok.inj (read.symm.trans hread)
        exact .handled hmissed hbody hfits _
      · exact absurd (read.symm.trans hread) (by simp)
      · exact absurd (read.symm.trans hread) (by simp)

/-- However a request is treated, at most one handler runs, and where it does not
return a response the answer is `500`. -/
theorem Treats.runs {routes : RouteTable η} {limit : Nat} {a : Arrival} {now : Nat}
    {cache : Cache} {runs : List (Run η)} {response : Response}
    (h : Treats routes limit a now cache runs response) :
    runs.length ≤ 1
      ∧ ∀ run ∈ runs, response = match run.outcome with
          | .reply r => r
          | .failure _ | .panic _ => .ofStatus .internalServerError := by
  cases h with
  | unmatched | cached | tooLarge | cutShort | broken => exact ⟨Nat.zero_le _, by simp⟩
  | handled _ _ _ o =>
      refine ⟨Nat.le_refl _, fun run hrun => ?_⟩
      obtain rfl := List.mem_singleton.mp hrun
      cases o with
      | reply | failure | panic => rfl

/-! ## §4. What becomes of the cache. -/

namespace Cache

theorem Trims.ttl?_eq {c d : Cache} {now : Nat} (h : c.Trims d now) : d.ttl? = c.ttl? := by
  unfold ttl?
  rw [h.ttlSeconds]

/-- Looking up one key changes nothing under the others. -/
theorem get?_lookUp_of_ne (c : Cache) {key? : Option CacheKey} {k : CacheKey}
    (hne : key? ≠ some k) (now : Nat) :
    (c.lookUp key? now).2.entries.get? k = c.entries.get? k := by
  cases key? with
  | none => rfl
  | some k' =>
      have hk : k ≠ k' := fun h => hne (congrArg some h.symm)
      show (c.get k' now).2.entries.get? k = _
      rcases get_cases c k' now with ⟨_, h⟩ | ⟨_, _, h⟩ | ⟨_, _, _, _, h⟩ | ⟨_, _, _, _, h⟩
      · rw [h]
      · rw [h]
      · rw [h]
        show (c.entries.erase k').get? k = _
        rw [Table.get?_erase, if_neg hk]
      · rw [h]

/-- Keeping an answer under one key trims the others at most. -/
theorem keep_trimsAt (c : Cache) {key? : Option CacheKey} {k : CacheKey} (hne : key? ≠ some k)
    (r : Response) (t : Readings) : c.TrimsAt (c.keep key? r t) k t.stored := by
  unfold keep
  cases key? with
  | none => exact .inl rfl
  | some k' =>
      have hk : k ≠ k' := fun h => hne (congrArg some h.symm)
      show c.TrimsAt (if r.status.isSuccess = true then c.put k' ⟨r, t.created⟩ t.stored else c)
        k t.stored
      split
      · exact put_trimsAt hk c _ _
      · exact .inl rfl

/-- Under its own key a success is stored, or nothing changes. -/
theorem get?_keep_self (c : Cache) (k : CacheKey) (r : Response) (t : Readings) :
    (c.keep (some k) r t).entries.get? k = c.entries.get? k
      ∨ r.status.isSuccess = true
        ∧ (c.keep (some k) r t).entries.get? k = some ⟨r, t.created⟩ := by
  show (if r.status.isSuccess = true then c.put k ⟨r, t.created⟩ t.stored else c).entries.get? k = _
    ∨ _ ∧ (if r.status.isSuccess = true then c.put k ⟨r, t.created⟩ t.stored else c).entries.get? k
      = _
  by_cases hsuccess : r.status.isSuccess = true
  · rw [if_pos hsuccess]
    rcases get?_put_self c k ⟨r, t.created⟩ t.stored with hstored | hsame
    · exact .inr ⟨hsuccess, hstored⟩
    · exact .inl hsame
  · rw [if_neg hsuccess]
    exact .inl rfl

end Cache

section

variable {handle : Handling η ω} {routes : RouteTable η}

/-- The cache after a dispatch: as the lookup left it, or as it is once the
response of the handler that ran was kept. -/
theorem dispatch_cache (hspare : handle.SparesCache) (a : Arrival) (t : Readings)
    (site : Site ω) {b : Binding η} {params : Params}
    (hroute : routes.resolve? a.method a.path = some (b, params)) :
    let d := dispatch handle routes limit a t site
    let looked := (site.cache.lookUp (b.cacheKey? params a) t.lookup).2
    d.site.cache = looked
      ∨ d.site.cache = looked.keep (b.cacheKey? params a) d.response t
        ∧ ∃ request o, runsOf handle routes limit a t site = [⟨b.handler, request, o⟩]
          ∧ d.response = o.response := by
  intro d looked
  have hx := answering handle routes limit a t site
  have hruns := runsOf_eq handle routes limit a t site
  have hresponse : (exchange handle routes limit a t site).response = d.response := rfl
  have hsite : (dispatch handle routes limit a t site).site = d.site := rfl
  rw [hsite] at hx
  generalize exchange handle routes limit a t site = x at hx hruns hresponse
  cases hx with
  | unmatched resolved => exact absurd (hroute.symm.trans resolved) (by simp)
  | hit b' params' _ resolved _ _ _ site_eq | refused b' params' _ resolved _ _ _ _ site_eq =>
      obtain ⟨rfl, rfl⟩ := Prod.mk.inj (Option.some.inj (resolved.symm.trans hroute))
      rw [site_eq]
      exact .inl rfl
  | handled b' params' body done resolved _ _ ran course_eq outcome_eq response_eq site_eq =>
      obtain ⟨rfl, rfl⟩ := Prod.mk.inj (Option.some.inj (resolved.symm.trans hroute))
      -- The handler leaves the cache as the lookup did.
      have hdone : done.site.cache = looked := by
        rw [ran]
        exact hspare _ _ _
      right
      refine ⟨?_, a.toRequest params' body, done.outcome, ?_, hresponse.symm.trans response_eq⟩
      · rw [site_eq, hdone, hresponse]
      · rw [hruns, course_eq, outcome_eq]

theorem dispatch_cache_of_unmatched (a : Arrival) (t : Readings) (site : Site ω)
    (hroute : routes.resolve? a.method a.path = none) :
    (dispatch handle routes limit a t site).site.cache = site.cache := by
  have hcourse : course routes limit a t.lookup site.cache = (.unmatched, site.cache) := by
    simp [course, hroute]
  simp [dispatch, hcourse]

/-- **Under the other keys a dispatch drops expired entries at most.** -/
theorem dispatch_trimsAt (hspare : handle.SparesCache) (a : Arrival) (t : Readings)
    (site : Site ω) {k : CacheKey}
    (hne : ∀ b params, routes.resolve? a.method a.path = some (b, params) →
      k ≠ .new b.name params a.query) :
    site.cache.TrimsAt (dispatch handle routes limit a t site).site.cache k t.stored := by
  cases hroute : routes.resolve? a.method a.path with
  | none =>
      rw [dispatch_cache_of_unmatched limit a t site hroute]
      exact .inl rfl
  | some found =>
      obtain ⟨b, params⟩ := found
      have hkey : b.cacheKey? params a ≠ some k := fun hk =>
        hne b params hroute (Binding.cacheKey?_eq_some_iff.mp hk).2.2
      have hother := site.cache.get?_lookUp_of_ne hkey t.lookup
      have httl := (site.cache.lookUp_trims (b.cacheKey? params a) t.lookup).ttl?_eq
      rcases dispatch_cache limit hspare a t site hroute with hlooked | ⟨hkept, _⟩
      · rw [hlooked]
        exact .inl hother
      · -- What is kept under the request's key may take a purge.
        have htrim := Cache.keep_trimsAt (site.cache.lookUp (b.cacheKey? params a) t.lookup).2
          hkey (dispatch handle routes limit a t site).response t
        rw [Cache.TrimsAt, hother, httl] at htrim
        rw [hkept]
        exact htrim

/-- **Under the request's own key** an expired entry is dropped, or the response
of the handler that ran is stored, a success of a binding whose answers may be
cached; or nothing changes. -/
theorem dispatch_own_entry (hspare : handle.SparesCache) (a : Arrival) (t : Readings)
    (site : Site ω) {b : Binding η} {params : Params}
    (hroute : routes.resolve? a.method a.path = some (b, params)) :
    let d := dispatch handle routes limit a t site
    site.cache.TrimsAt d.site.cache (.new b.name params a.query) t.lookup
      ∨ b.cacheKey? params a = some (.new b.name params a.query)
        ∧ d.response.status.isSuccess = true
        ∧ (∃ request, runsOf handle routes limit a t site
          = [⟨b.handler, request, .reply d.response⟩])
        ∧ d.site.cache.entries.get? (.new b.name params a.query)
          = some ⟨d.response, t.created⟩ := by
  intro d
  have hlooked := (site.cache.lookUp_trims (b.cacheKey? params a) t.lookup).get?_cases
    (.new b.name params a.query)
  rcases dispatch_cache limit hspare a t site hroute with
    hcache | ⟨hcache, request, o, hruns, hresponse⟩
  · left
    rw [Cache.TrimsAt, hcache]
    exact hlooked
  · cases hkey : b.cacheKey? params a with
    | none =>
        -- Without a key neither the lookup nor the keeping does anything.
        left
        rw [hkey] at hcache
        rw [Cache.TrimsAt, hcache]
        exact .inl rfl
    | some k =>
        obtain ⟨_, _, rfl⟩ := Binding.cacheKey?_eq_some_iff.mp hkey
        rw [hkey] at hcache hlooked
        rcases Cache.get?_keep_self (site.cache.lookUp _ t.lookup).2
          (.new b.name params a.query) d.response t with hsame | ⟨hsuccess, hstored⟩
        · left
          rw [Cache.TrimsAt, hcache, hsame]
          exact hlooked
        · right
          -- A handler that fails or panics is answered with no success.
          have hreply : o = .reply d.response := by
            rw [hresponse] at hsuccess
            rw [show d.response = o.response from hresponse]
            exact Outcome.eq_reply_of_isSuccess hsuccess
          refine ⟨rfl, hsuccess, ⟨request, ?_⟩, ?_⟩
          · rw [hruns, hreply]
          · rw [hcache]
            exact hstored

end

/-! ## §5. One dispatch. -/

/-- **What one dispatch may do**, if handlers leave the cache alone.  It treats
the request in one of the ways above: a handler runs at most once, on the whole
body of a request that is not answered from the cache, and where it fails or
panics the answer is `500`.  Under every key but the request's the cache stays
as it is, or an expired entry goes.  Under the request's key it stays too, or an
expired entry goes, or the response that the handler returned is stored; the
last only where the binding may be cached, for `GET` or `HEAD`, and a status of
the class 2xx. -/
theorem dispatch_effects (hspare : handle.SparesCache) (a : Arrival) (t : Readings)
    (site : Site ω) :
    let d := dispatch handle routes limit a t site
    let runs := runsOf handle routes limit a t site
    Treats routes limit a t.lookup site.cache runs d.response
      ∧ runs.length ≤ 1
      ∧ (∀ run ∈ runs, d.response = match run.outcome with
          | .reply r => r
          | .failure _ | .panic _ => .ofStatus .internalServerError)
      ∧ (∀ k, (∀ b params, routes.resolve? a.method a.path = some (b, params) →
            k ≠ .new b.name params a.query) →
          site.cache.TrimsAt d.site.cache k t.stored)
      ∧ (∀ b params, routes.resolve? a.method a.path = some (b, params) →
          let k := CacheKey.new b.name params a.query
          site.cache.TrimsAt d.site.cache k t.lookup
            ∨ b.cacheable = true ∧ (a.method = .get ∨ a.method = .head)
              ∧ (200 ≤ d.response.status.code ∧ d.response.status.code < 300)
              ∧ (∃ request, runs = [⟨b.handler, request, .reply d.response⟩])
              ∧ d.site.cache.entries.get? k = some ⟨d.response, t.created⟩) := by
  intro d runs
  have htreats := dispatch_treats handle routes limit a t site
  obtain ⟨honce, hanswer⟩ := htreats.runs
  refine ⟨htreats, honce, hanswer, fun k => dispatch_trimsAt limit hspare a t site, ?_⟩
  intro b params hroute k
  rcases dispatch_own_entry limit hspare a t site hroute with htrim | ⟨hkey, hsuccess, hran, hstored⟩
  · exact .inl htrim
  · obtain ⟨hcacheable, hmethod, _⟩ := Binding.cacheKey?_eq_some_iff.mp hkey
    have hcode : 200 ≤ d.response.status.code ∧ d.response.status.code < 300 := by
      simpa [Status.isSuccess] using hsuccess
    exact .inr ⟨hcacheable, hmethod, hcode, hran, hstored⟩

/-- A cache with one place, taken by a greeting that has expired. -/
def Page.staleCache : Cache :=
  { Cache.new true 10 1 none with
    entries := Table.empty.insert (.new "hello" [("name", "bob")] none) ⟨.text [98, 111, 98], 0⟩ }

/-- A greeting is stored in the place of another one that has expired. -/
theorem Page.hello_displaces_stale :
    let d := dispatch (Handling.apart Page.act) Page.table 0 (Page.ask .get "/hello/ada")
      ⟨20, 21, 22⟩ ⟨Page.staleCache, 0⟩
    (Page.staleCache.TrimsAt d.site.cache (.new "hello" [("name", "bob")] none) 22)
      ∧ d.site.cache.entries.get? (.new "hello" [("name", "bob")] none) = none
      ∧ d.response.body = Utf8.encode "ada"
      ∧ d.site.cache.entries.get? (.new "hello" [("name", "ada")] none)
        = some ⟨d.response, 21⟩ := by
  intro d
  obtain ⟨_, _, _, hothers, _⟩ := dispatch_effects (Handling.apart Page.act) Page.table 0
    (fun _ _ _ => rfl) (Page.ask .get "/hello/ada") ⟨20, 21, 22⟩ ⟨Page.staleCache, 0⟩
  refine ⟨hothers _ ?_, by decide, by decide, by decide⟩
  -- The request's own key has other captures.
  intro b params hroute hkey
  have hresolved : some ("hello", [("name", "ada")]) = some (b.name, params) :=
    congrArg (Option.map (Prod.map Binding.name id)) hroute
  obtain ⟨_, hparams⟩ := Prod.mk.inj (Option.some.inj hresolved)
  rw [← hparams] at hkey
  have hsame : [("name", "bob")] = [("name", "ada")] := congrArg CacheKey.params hkey
  exact absurd hsame (by decide)

/-- A greeting with a body that whoever delivers it has cut short after two octets,
by a limit of their own. -/
def Page.cutShort : Arrival :=
  { Page.ask .post "/hello/ada" with
    body := [.data [104, 101], .broken (.causedBy .lengthLimit)] }

/-- **Another limit counts as this one.**  The body breaks off long before it
reaches the limit of the dispatch.  It is answered as too large all the same, not
as a bad request. -/
theorem Page.cutShort_too_large :
    let cache := Cache.new true 10 1 none
    let d := dispatch (Handling.apart Page.act) Page.table 16 Page.cutShort ⟨0, 0, 0⟩ ⟨cache, 0⟩
    (Handling.apart Page.act).SparesCache
      ∧ (∃ b params, Missed Page.table Page.cutShort 0 cache b params)
      ∧ (∃ pieces error, Page.cutShort.body = List.map Chunk.data pieces ++ [.broken error]
        ∧ pieces.flatten.length ≤ 16)
      ∧ d.response.status.code = 413 ∧ d.response ≠ .ofStatus .badRequest := by
  intro cache d
  refine ⟨fun _ _ _ => rfl, ⟨_, _, missed_of_lookUp rfl rfl⟩,
    ⟨[[104, 101]], .causedBy .lengthLimit, rfl, by decide⟩, by decide, fun h => ?_⟩
  have hstatus : d.response.status = .badRequest := congrArg Response.status h
  exact absurd hstatus (by decide)

end Switchyard
