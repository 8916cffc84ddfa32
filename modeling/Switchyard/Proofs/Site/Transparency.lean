/-
  Switchyard.Proofs.Site.Transparency
  ───────────────────────────────────
  With a cache and without it a site gives the same answers.  The two runs are
  kept together by a simulation: the worlds look the same to every handler
  that the cache cannot stand in for, and what the cache holds under a key is
  what the key's handler answers, now as before.

      Steady      — what the cache needs to know of the handlers to answer for them
      Replayable  — and what their runs have to keep to besides
      Alike       — kept by every turn of the two runs

  Main statements:

      cache_transparent
      Page.counted_greetings_seen — steady handlers alone are not enough
-/
import Mathlib.Data.List.Forall2
import Switchyard.Proofs.Cache.CanonicalQuery
import Switchyard.Proofs.Route.Registration
import Switchyard.Proofs.Site.Provenance

namespace Switchyard

/-! ## §1. Same answers. -/

/-- Two responses that differ at most in the header that tells whether an
answer comes from the cache. -/
structure Response.SameButMark (r r' : Response) : Prop where
  status : r.status = r'.status
  body : r.body = r'.body
  values : ∀ n, n ≠ .xCache → r.headers.values n = r'.headers.values n

theorem Response.SameButMark.refl (r : Response) : r.SameButMark r where
  status := rfl
  body := rfl
  values := fun _ _ => rfl

theorem Response.SameButMark.map_body {rs rs' : List Response}
    (h : List.Forall₂ Response.SameButMark rs rs') :
    rs.map Response.body = rs'.map Response.body := by
  induction h with
  | nil => rfl
  | cons hsame _ ih => exact congrArg₂ List.cons hsame.body ih

theorem Entry.hit_sameButMark (e : Entry) : e.hit.SameButMark e.response where
  status := e.hit_status
  body := e.hit_body
  values := fun n hn => by rw [e.hit_values, if_neg hn]

/-! ## §2. Handlers that the cache may stand in for. -/

variable {η ω σ : Type} {handle : Handling η ω} {routes : RouteTable η} {limit : Nat}
  {see : ω → σ}

/-- Whether an answer from the cache may stand in for a run of the handler. -/
def Binding.isReplayed (b : Binding η) (r : Request) : Bool := b.cacheable && r.method.isRead

/-- What the handlers of a table have to keep to, `see` being what those of
them that always run can see of the world.

A run that may be skipped has to end in the same way for all requests with the
same captures and the same query pieces.  As it is skipped or not depending on
the cache, nothing that it does may be seen.  The other runs may do anything
with what is seen, but the cache and what is not seen do not sway them. -/
structure Handling.Replayable (handle : Handling η ω) (routes : RouteTable η) (see : ω → σ) :
    Prop where
  spares : handle.SparesCache
  settled : ∀ b ∈ routes.bindings, ∀ r r', b.isReplayed r = true → b.isReplayed r' = true →
    r.params = r'.params → (Query.itemsOf r.query).Perm (Query.itemsOf r'.query) →
    ∀ s s', (handle b.handler r s).outcome = (handle b.handler r' s').outcome
  silent : ∀ b ∈ routes.bindings, ∀ r, b.isReplayed r = true →
    ∀ s, see (handle b.handler r s).site.world = see s.world
  others : ∀ b ∈ routes.bindings, ∀ r, b.isReplayed r = false →
    ∀ s s', see s.world = see s'.world →
      (handle b.handler r s).outcome = (handle b.handler r s').outcome
        ∧ see (handle b.handler r s).site.world = see (handle b.handler r s').site.world

namespace Handling.Replayable

/-- A run with a cache and a run without one end in the same way, and leave
worlds behind that look the same. -/
theorem outcome_eq (h : handle.Replayable routes see) {b : Binding η} (hb : b ∈ routes.bindings)
    (r : Request) (s s' : Site ω) (hsee : see s.world = see s'.world) :
    (handle b.handler r s).outcome = (handle b.handler r s').outcome
      ∧ see (handle b.handler r s).site.world = see (handle b.handler r s').site.world := by
  cases hr : b.isReplayed r with
  | true =>
      refine ⟨h.settled b hb r r hr hr rfl (.refl _) s s', ?_⟩
      rw [h.silent b hb r hr s, h.silent b hb r hr s', hsee]
  | false => exact h.others b hb r hr s s' hsee

end Handling.Replayable

/-- Handlers that neither change the cache nor look at it, those of cacheable
bindings ending as captures and query pieces say.  What a run does to the world is
left open, and so is all that the other handlers do with it. -/
structure Handling.Steady (handle : Handling η ω) (routes : RouteTable η) : Prop where
  spares : handle.SparesCache
  blind : ∀ handler r s s', s.world = s'.world →
    (handle handler r s).outcome = (handle handler r s').outcome
      ∧ (handle handler r s).site.world = (handle handler r s').site.world
  settled : ∀ b ∈ routes.bindings, b.cacheable = true → ∀ r r', r.params = r'.params →
    (Query.itemsOf r.query).Perm (Query.itemsOf r'.query) →
    ∀ s s', (handle b.handler r s).outcome = (handle b.handler r' s').outcome

/-- Steady handlers may be replayed if the runs that the cache stands in for leave
the world as it is. -/
theorem Handling.Steady.replayable (h : handle.Steady routes)
    (hpure : ∀ b ∈ routes.bindings, ∀ r, b.isReplayed r = true →
      ∀ s, (handle b.handler r s).site.world = s.world) : handle.Replayable routes id where
  spares := h.spares
  settled := by
    intro b hb r r' hr _
    unfold Binding.isReplayed at hr
    rw [Bool.and_eq_true] at hr
    exact h.settled b hb hr.1 r r'
  silent := hpure
  others := fun b _ r _ => h.blind b.handler r

/-- Handlers that act on the world alone see no cache. -/
theorem Handling.apart_steady {act : η → Request → ω → Outcome × ω}
    (hsettled : ∀ b ∈ routes.bindings, b.cacheable = true → ∀ r r', r.params = r'.params →
      (Query.itemsOf r.query).Perm (Query.itemsOf r'.query) →
      ∀ w w', (act b.handler r w).1 = (act b.handler r' w').1) :
    (Handling.apart act).Steady routes where
  spares := fun _ _ _ => rfl
  blind := by
    intro handler r s s' hworld
    show (act handler r s.world).1 = _ ∧ (act handler r s.world).2 = _
    rw [hworld]
    exact ⟨rfl, rfl⟩
  settled := fun b hb hcacheable r r' hparams hperm s s' =>
    hsettled b hb hcacheable r r' hparams hperm s.world s'.world

theorem Binding.cacheKey?_isReplayed {b : Binding η} {params : Params} {a : Arrival}
    {k : CacheKey} (h : b.cacheKey? params a = some k) (body : Bytes) :
    b.isReplayed (a.toRequest params body) = true := by
  obtain ⟨hcacheable, hread, -⟩ := Binding.cacheKey?_eq_some h
  unfold isReplayed
  rw [hcacheable]
  exact hread

/-! ## §3. What the cache holds is what the handlers answer. -/

/-- An entry under a key is what the key's binding answers to any request that
has the key, whatever the site is then like. -/
def Faithful (handle : Handling η ω) (routes : RouteTable η) (c : Cache) : Prop :=
  ∀ k e, c.entries.get? k = some e → ∀ b ∈ routes.bindings, ∀ r, b.isReplayed r = true →
    CacheKey.new b.name r.params r.query = k →
    ∀ s, (handle b.handler r s).outcome.response = e.response

theorem Faithful.within {c d : Cache} (h : Faithful handle routes c)
    (hwithin : ∀ k e, d.entries.get? k = some e → c.entries.get? k = some e) :
    Faithful handle routes d :=
  fun k e he => h k e (hwithin k e he)

/-- Keeping a handler's answer keeps the cache faithful: who else has the key
is the same binding with a request that it cannot tell from this one. -/
theorem Faithful.keep (hroutes : routes.Registered) (hplay : handle.Replayable routes see)
    {c : Cache} (h : Faithful handle routes c) {b : Binding η} (hb : b ∈ routes.bindings)
    (params : Params) (a : Arrival) (body : Bytes) (s : Site ω) (t : Readings) :
    Faithful handle routes (c.keep (b.cacheKey? params a)
      (handle b.handler (a.toRequest params body) s).outcome.response t) := by
  intro k e he b' hb' r hr hk s'
  rcases Cache.get?_keep he with ⟨hkey, -, hresponse⟩ | hold
  · -- Equal keys have equal names and captures and the same query pieces.
    obtain ⟨-, -, rfl⟩ := Binding.cacheKey?_eq_some hkey
    obtain ⟨hname, hparams, hperm⟩ := CacheKey.new_inj hk
    obtain rfl : b' = b := hroutes.eq_of_name hb' hb hname
    rw [hresponse]
    exact congrArg Outcome.response (hplay.settled b' hb r (a.toRequest params body) hr
      (Binding.cacheKey?_isReplayed hkey body) hparams hperm s' s)
  · exact h k e hold b' hb' r hr hk s'

/-! ## §4. Without a cache. -/

theorem dispatch_of_unmatched (handle : Handling η ω) (limit : Nat) {a : Arrival} (t : Readings)
    (site : Site ω) (h : routes.resolve? a.method a.path = none) :
    dispatch handle routes limit a t site = ⟨.notFound, site, []⟩ := by
  have hcourse : course routes limit a t.lookup site.cache = (.unmatched, site.cache) := by
    simp [course, h]
  rw [dispatch, hcourse]

/-- A site whose cache is off asks the handler every time, and its cache stays
off. -/
theorem dispatch_of_off (hspare : handle.SparesCache) {site : Site ω}
    (hoff : site.cache.enabled = false) (a : Arrival) (t : Readings) {body : Bytes}
    (hbody : readBody limit a.body = .ok body) {b : Binding η} {params : Params}
    (hb : routes.resolve? a.method a.path = some (b, params)) :
    (dispatch handle routes limit a t site).response
        = (handle b.handler (a.toRequest params body) site).outcome.response
      ∧ (dispatch handle routes limit a t site).site.world
        = (handle b.handler (a.toRequest params body) site).site.world
      ∧ (dispatch handle routes limit a t site).site.cache.enabled = false := by
  have hcourse : course routes limit a t.lookup site.cache
      = (.handler b (a.toRequest params body) (b.cacheKey? params a), site.cache) := by
    simp [course, hb, Cache.lookUp_of_off hoff, hbody]
  unfold dispatch
  rw [hcourse]
  refine ⟨rfl, rfl, ?_⟩
  show (Cache.keep _ _ _ _).enabled = false
  rw [Cache.keep_enabled, hspare]
  exact hoff

/-! ## §5. The simulation. -/

/-- `s` with a cache and `s'` without one have answered alike so far, and will
do so again. -/
structure Alike (handle : Handling η ω) (routes : RouteTable η) (see : ω → σ)
    (s s' : Service η ω) : Prop where
  seen : see s.site.world = see s'.site.world
  off : s'.site.cache.enabled = false
  faithful : Faithful handle routes s.site.cache
  responses : List.Forall₂ Response.SameButMark s.responses s'.responses

theorem alike_start (config : CacheConfig) {config' : CacheConfig}
    (hoff : config'.enabled = false) (world : ω) :
    Alike handle routes see (Service.start config world) (Service.start config' world) where
  seen := rfl
  off := hoff
  faithful := fun k e he => by
    have hnone := Cache.get?_ofConfig config k
    rw [show (Cache.ofConfig config).entries.get? k = some e from he] at hnone
    simp at hnone
  responses := .nil

/-- Two more answers. -/
theorem Alike.cons {s s' : Service η ω} (h : Alike handle routes see s s') {site site' : Site ω}
    {x x' : Exchange η} (hseen : see site.world = see site'.world)
    (hoff : site'.cache.enabled = false) (hfaithful : Faithful handle routes site.cache)
    (hsame : x.response.SameButMark x'.response) :
    Alike handle routes see ⟨site, x :: s.past⟩ ⟨site', x' :: s'.past⟩ :=
  ⟨hseen, hoff, hfaithful, .cons hsame h.responses⟩

theorem Alike.answer (hroutes : routes.Registered) (hplay : handle.Replayable routes see)
    {s s' : Service η ω} (h : Alike handle routes see s s') (a : Arrival) (t : Readings)
    {body : Bytes} (hbody : readBody limit a.body = .ok body) :
    Alike handle routes see (s.turn handle routes limit (.answer a t))
      (s'.turn handle routes limit (.answer a t)) := by
  have hx := answering handle routes limit a t s.site
  cases hx with
  | unmatched resolved _ response_eq site_eq =>
      have hplain := dispatch_of_unmatched handle limit t s'.site resolved
      have hresponse : (exchange handle routes limit a t s'.site).response = .notFound :=
        congrArg Dispatched.response hplain
      refine h.cons ?_ ?_ ?_ ?_
      · rw [site_eq, hplain]
        exact h.seen
      · rw [hplain]
        exact h.off
      · rw [site_eq]
        exact h.faithful
      · rw [response_eq, hresponse]
        exact .refl _
  | refused _ _ _ _ _ unread =>
      -- The body can be read.
      rw [hbody] at unread
      simp at unread
  | hit b params e resolved found _ response_eq site_eq =>
      -- The handler that did not run would have answered the same, unseen.
      have hb := RouteTable.mem_of_resolve? resolved
      obtain ⟨hresponse, hworld, hoff⟩ :=
        dispatch_of_off hplay.spares h.off a t hbody resolved
      obtain ⟨k, hkey, hheld⟩ := Cache.lookUp_eq_some found
      have hreplayed := Binding.cacheKey?_isReplayed hkey body
      obtain ⟨-, -, hk⟩ := Binding.cacheKey?_eq_some hkey
      have htrim := Cache.lookUp_trims s.site.cache (b.cacheKey? params a) t.lookup
      refine h.cons ?_ hoff ?_ ?_
      · rw [site_eq, hworld, hplay.silent b hb _ hreplayed]
        exact h.seen
      · rw [site_eq]
        exact h.faithful.within htrim.within
      · rw [response_eq]
        show e.hit.SameButMark (dispatch handle routes limit a t s'.site).response
        rw [hresponse, h.faithful k e hheld b hb _ hreplayed hk.symm]
        exact e.hit_sameButMark
  | handled b params body' done resolved _ read ran _ _ response_eq site_eq =>
      -- The handler runs in both.
      have hb := RouteTable.mem_of_resolve? resolved
      obtain rfl : body' = body := by simpa [hbody] using read.symm
      obtain ⟨hresponse, hworld, hoff⟩ :=
        dispatch_of_off hplay.spares h.off a t hbody resolved
      have htrim := Cache.lookUp_trims s.site.cache (b.cacheKey? params a) t.lookup
      obtain ⟨houtcome, hseen⟩ := hplay.outcome_eq hb (a.toRequest params body')
        { s.site with cache := (s.site.cache.lookUp (b.cacheKey? params a) t.lookup).2 } s'.site
        h.seen
      rw [← ran] at houtcome hseen
      refine h.cons ?_ hoff ?_ ?_
      · rw [site_eq, hworld]
        exact hseen
      · -- The answer is kept in the cache that the handler left as it was.
        rw [site_eq, response_eq, ran]
        refine Faithful.keep hroutes hplay ?_ hb params a body' _ t
        rw [hplay.spares]
        exact h.faithful.within htrim.within
      · rw [response_eq]
        show done.outcome.response.SameButMark
          (dispatch handle routes limit a t s'.site).response
        rw [hresponse, houtcome]
        exact .refl _

/-- A change from outside takes entries out of the one cache and does not
reach the other. -/
theorem Alike.change {s s' : Service η ω} (h : Alike handle routes see s s')
    (ch : Cache.Change) : Alike handle routes see (s.turn handle routes limit (.change ch)) s' where
  seen := h.seen
  off := h.off
  faithful := h.faithful.within fun _ _ he => Cache.change_within he
  responses := h.responses

theorem Alike.run (hroutes : routes.Registered) (hplay : handle.Replayable routes see)
    (turns : List Turn)
    (hbody : ∀ a t, .answer a t ∈ turns → ∃ body, readBody limit a.body = .ok body)
    {s s' : Service η ω} (h : Alike handle routes see s s') :
    Alike handle routes see (s.run handle routes limit turns)
      (s'.run handle routes limit (turns.filter Turn.isAnswer)) := by
  -- The run without a cache skips the changes, so only answers move both.
  induction turns generalizing s s' with
  | nil => exact h
  | cons turn turns ih =>
      have hrest : ∀ a t, .answer a t ∈ turns → ∃ body, readBody limit a.body = .ok body :=
        fun a t hm => hbody a t (List.mem_cons_of_mem _ hm)
      cases turn with
      | answer a t =>
          obtain ⟨body, hread⟩ := hbody a t List.mem_cons_self
          rw [List.filter_cons_of_pos rfl]
          exact ih hrest (h.answer hroutes hplay a t hread)
      | change ch =>
          rw [List.filter_cons_of_neg (by simp [Turn.isAnswer])]
          exact ih hrest (h.change ch)

/-- **The cache is invisible.**  Let a table be made by registration and let
its handlers keep to what is asked of them.  Whatever the configuration,
however requests and changes of the cache follow each other and whatever the
clock shows, every answer has the status, the body and, but for the mark, the
headers that the request gets from a site whose cache is off all the time. -/
theorem cache_transparent (hroutes : routes.Registered) (hplay : handle.Replayable routes see)
    (config config' : CacheConfig) (hoff : config'.enabled = false) (world : ω)
    (turns : List Turn)
    (hbody : ∀ a t, .answer a t ∈ turns → ∃ body, readBody limit a.body = .ok body) :
    List.Forall₂ Response.SameButMark
      ((Service.start config world).run handle routes limit turns).responses
      ((Service.start config' world).run handle routes limit
        (turns.filter Turn.isAnswer)).responses :=
  ((alike_start config hoff world).run hroutes hplay turns hbody).responses

theorem Page.table_registered : Page.table.Registered :=
  .ofBindings (show RouteTable.ofBindings Page.table.bindings = .ok Page.table from rfl)

/-- A greeting names who is greeted, and nothing else that is sent. -/
theorem Page.act_settled {b : Binding Page} (hb : b ∈ Page.table.bindings)
    (hcacheable : b.cacheable = true) {r r' : Request} (hparams : r.params = r'.params)
    (n n' : Nat) : (Page.act b.handler r n).1 = (Page.act b.handler r' n').1 := by
  simp only [Page.table, List.mem_cons, List.not_mem_nil, or_false] at hb
  rcases hb with rfl | rfl
  · show Outcome.reply _ = Outcome.reply _
    simp only [Request.param, hparams]
  · simp at hcacheable

theorem Page.replayable : (Handling.apart Page.act).Replayable Page.table id := by
  refine (Handling.apart_steady fun b hb hc r r' hparams _ => act_settled hb hc hparams).replayable ?_
  intro b hb r hr s
  simp only [Page.table, List.mem_cons, List.not_mem_nil, or_false] at hb
  rcases hb with rfl | rfl
  · rfl
  · simp [Binding.isReplayed] at hr

/-- Two greetings, the second from the cache, around a question that is never
answered twice in the same way. -/
def Page.morning : List Turn :=
  [.answer (Page.ask .get "/hello/ada") ⟨7, 7, 7⟩, .change .clear,
    .answer (Page.ask .get "/visits") ⟨8, 8, 8⟩,
    .answer (Page.ask .get "/hello/ada") ⟨8, 9, 9⟩,
    .answer (Page.ask .head "/hello/ada") ⟨5, 9, 9⟩,
    .answer (Page.ask .get "/visits") ⟨9, 9, 9⟩]

theorem Page.morning_read (a : Arrival) (t : Readings) (h : .answer a t ∈ Page.morning) :
    ∃ body, readBody 0 a.body = .ok body := by
  simp only [Page.morning, List.mem_cons, List.not_mem_nil, or_false, reduceCtorEq,
    false_or, Turn.answer.injEq] at h
  rcases h with ⟨rfl, -⟩ | ⟨rfl, -⟩ | ⟨rfl, -⟩ | ⟨rfl, -⟩ | ⟨rfl, -⟩ <;> exact ⟨[], rfl⟩

theorem Page.morning_transparent :
    List.Forall₂ Response.SameButMark
      ((Service.start {} 0).run (Handling.apart Page.act) Page.table 0 Page.morning).responses
      ((Service.start { enabled := false } 0).run (Handling.apart Page.act) Page.table 0
        (Page.morning.filter Turn.isAnswer)).responses :=
  cache_transparent Page.table_registered Page.replayable {} { enabled := false } rfl 0 Page.morning
    Page.morning_read

/-! ## §6. Runs that are seen. -/

/-- The pages where greetings count as visits. -/
def Page.actCounting : Page → Request → Nat → Outcome × Nat
  | .hello, r, n => ((Page.act .hello r n).1, n + 1)
  | .visits, r, n => Page.act .visits r n

theorem Page.actCounting_outcome (page : Page) (r : Request) (n : Nat) :
    (Page.actCounting page r n).1 = (Page.act page r n).1 := by
  cases page <;> rfl

/-- Counting changes no answer, so the handlers are as steady as before. -/
theorem Page.counting_steady : (Handling.apart Page.actCounting).Steady Page.table :=
  Handling.apart_steady fun b hb hcacheable r r' hparams _ n n' => by
    rw [actCounting_outcome, actCounting_outcome]
    exact act_settled hb hcacheable hparams n n'

/-- **A run that is seen cannot be left out.**  Steady handlers do not make the
cache invisible: where greetings count as visits, the number of visits tells how
many greetings came from the cache. -/
theorem Page.counted_greetings_seen :
    let handle := Handling.apart Page.actCounting
    Page.table.Registered ∧ handle.Steady Page.table
      ∧ (∀ a t, .answer a t ∈ Page.morning → ∃ body, readBody 0 a.body = .ok body)
      ∧ ¬ List.Forall₂ Response.SameButMark
        ((Service.start {} 0).run handle Page.table 0 Page.morning).responses
        ((Service.start { enabled := false } 0).run handle Page.table 0
          (Page.morning.filter Turn.isAnswer)).responses := by
  intro handle
  refine ⟨Page.table_registered, Page.counting_steady, Page.morning_read, fun hsame => ?_⟩
  -- Three visits are counted with the cache, and four without it.
  exact absurd (Response.SameButMark.map_body hsame) (by decide)

end Switchyard
