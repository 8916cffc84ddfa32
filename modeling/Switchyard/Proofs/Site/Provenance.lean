/-
  Switchyard.Proofs.Site.Provenance
  ─────────────────────────────────
  Where answers from the cache come from.  Handlers may be stateful and may
  even look at the cache.  For the main statement they leave it as it is; the
  invariant behind it bears that they take entries out.

      AddsNothing — what the invariant asks of the handlers
      Traced      — kept by every turn: an entry of the cache is the answer of
                    the handler that last ran under its key

  Main statement:

      hit_is_last_answer
-/
import Switchyard.Proofs.Site.Run

namespace Switchyard

variable {η ω : Type} {handle : Handling η ω} {routes : RouteTable η} {limit : Nat}

/-- Handlers that leave the cache as it is. -/
def Handling.SparesCache (handle : Handling η ω) : Prop :=
  ∀ handler request site, (handle handler request site).site.cache = site.cache

/-- Handlers that put no entry of their own into the cache.  They may take
entries out, and where they switch the cache off they empty it. -/
structure Handling.AddsNothing (handle : Handling η ω) : Prop where
  within : ∀ handler request site k e,
    (handle handler request site).site.cache.entries.get? k = some e →
      site.cache.entries.get? k = some e
  emptyWhenOff : ∀ handler request site, site.cache.EmptyWhenOff →
    (handle handler request site).site.cache.EmptyWhenOff

theorem Handling.SparesCache.addsNothing (hspare : handle.SparesCache) : handle.AddsNothing where
  within := fun handler request site k e he => by
    rwa [hspare handler request site] at he
  emptyWhenOff := fun handler request site hoff => by
    rwa [hspare handler request site]

/-! ## §1. The last exchange under a key. -/

/-- The last exchange in which a handler ran under a key. -/
def lastUnder (k : CacheKey) (past : List (Exchange η)) : Option (Exchange η) :=
  past.find? fun x => x.key? = some k

theorem lastUnder_cons_of_ne {k : CacheKey} {x : Exchange η} (h : x.key? ≠ some k)
    (past : List (Exchange η)) : lastUnder k (x :: past) = lastUnder k past := by
  rw [lastUnder, List.find?_cons_of_neg (by simpa using h)]
  rfl

theorem lastUnder_cons_of_eq {k : CacheKey} {x : Exchange η} (h : x.key? = some k)
    (past : List (Exchange η)) : lastUnder k (x :: past) = some x := by
  rw [lastUnder, List.find?_cons_of_pos (by simpa using h)]

/-! ## §2. Entries and exchanges. -/

/-- The exchange that an entry comes from: its handler returned the entry's
response, a success, to a request that only reads. -/
structure Exchange.Made (x : Exchange η) (e : Entry) : Prop where
  returned : x.outcome? = some (.reply e.response)
  success : e.response.status.isSuccess = true
  isRead : x.arrival.method.isRead = true

/-- Every entry was made by the last exchange under its key, and a cache that
is off holds none. -/
structure Traced (s : Service η ω) : Prop where
  emptyWhenOff : s.site.cache.EmptyWhenOff
  made : ∀ k e, s.site.cache.entries.get? k = some e →
    ∃ x, lastUnder k s.past = some x ∧ x.Made e

theorem traced_start (config : CacheConfig) (world : ω) :
    Traced (Service.start config world : Service η ω) where
  emptyWhenOff := fun _ => rfl
  made := fun k e h => by
    have hnone := Cache.get?_ofConfig config k
    rw [show (Cache.ofConfig config).entries.get? k = some e from h] at hnone
    simp at hnone

/-- A response that is a success was returned by the handler. -/
theorem Outcome.eq_reply_of_isSuccess {o : Outcome} (h : o.response.status.isSuccess = true) :
    o = .reply o.response := by
  cases o with
  | reply r => rfl
  | failure causes =>
      exact absurd (show Response.internalError.status.isSuccess = true from h) (by decide)
  | panic text? =>
      exact absurd (show Response.internalError.status.isSuccess = true from h) (by decide)

/-- A turn in which no handler runs, and which adds no entry. -/
theorem Traced.of_within {s s' : Service η ω} (h : Traced s)
    (hoff : s'.site.cache.EmptyWhenOff)
    (hwithin : ∀ k e, s'.site.cache.entries.get? k = some e →
      s.site.cache.entries.get? k = some e)
    (hpast : ∀ k, lastUnder k s'.past = lastUnder k s.past) : Traced s' where
  emptyWhenOff := hoff
  made := fun k e he => by
    rw [hpast]
    exact h.made k e (hwithin k e he)

theorem Traced.answer (hadds : handle.AddsNothing) {s : Service η ω} (h : Traced s)
    (a : Arrival) (t : Readings) : Traced (s.turn handle routes limit (.answer a t)) := by
  show Traced ⟨(dispatch handle routes limit a t s.site).site,
    exchange handle routes limit a t s.site :: s.past⟩
  have hx := answering handle routes limit a t s.site
  have harrival : (exchange handle routes limit a t s.site).arrival = a := rfl
  generalize (dispatch handle routes limit a t s.site).site = site' at hx ⊢
  generalize exchange handle routes limit a t s.site = x at hx harrival ⊢
  -- Only a handler that ran can have put something into the cache; on all other ways the
  -- cache loses entries at most, and no exchange under a key is added.
  cases hx with
  | unmatched _ course_eq _ site_eq =>
      subst site_eq
      refine h.of_within h.emptyWhenOff (fun _ _ he => he) fun k => ?_
      exact lastUnder_cons_of_ne (by simp [Exchange.key?, course_eq]) _
  | hit binding params e _ _ course_eq _ site_eq =>
      subst site_eq
      have htrim := Cache.lookUp_trims s.site.cache (binding.cacheKey? params a) t.lookup
      refine h.of_within (h.emptyWhenOff.trims htrim) htrim.within fun k => ?_
      exact lastUnder_cons_of_ne (by simp [Exchange.key?, course_eq]) _
  | refused binding params error _ _ _ course_eq _ site_eq =>
      subst site_eq
      have htrim := Cache.lookUp_trims s.site.cache (binding.cacheKey? params a) t.lookup
      refine h.of_within (h.emptyWhenOff.trims htrim) htrim.within fun k => ?_
      exact lastUnder_cons_of_ne (by simp [Exchange.key?, course_eq]) _
  | handled binding params body done _ missed _ ran course_eq outcome_eq response_eq site_eq =>
      subst site_eq
      have htrim := Cache.lookUp_trims s.site.cache (binding.cacheKey? params a) t.lookup
      have hkey : x.key? = binding.cacheKey? params a := by
        rw [Exchange.key?, course_eq]
      have hoff : done.site.cache.EmptyWhenOff := by
        rw [ran]
        exact hadds.emptyWhenOff _ _ _ (h.emptyWhenOff.trims htrim)
      refine ⟨Cache.keep_emptyWhenOff hoff _ _ _, fun k e he => ?_⟩
      rcases Cache.get?_keep he with ⟨hk, hsuccess, hresponse⟩ | hold
      · -- The entry is this handler's answer.
        rw [response_eq] at hsuccess
        refine ⟨x, lastUnder_cons_of_eq (hkey.trans hk) _, ?_, ?_, ?_⟩
        · rw [hresponse, response_eq, outcome_eq]
          exact congrArg some (Outcome.eq_reply_of_isSuccess hsuccess)
        · rw [hresponse, response_eq]
          exact hsuccess
        · rw [harrival]
          exact (Binding.cacheKey?_eq_some hk).2.1
      · -- An older entry stands under another key, as this one was missed.
        have hheld : (s.site.cache.lookUp (binding.cacheKey? params a) t.lookup).2.entries.get? k
            = some e := by
          rw [ran] at hold
          exact hadds.within _ _ _ _ _ hold
        have hne : x.key? ≠ some k := by
          intro hk
          rw [hkey] at hk
          rw [hk] at missed hheld
          rw [Cache.get?_lookUp_of_none h.emptyWhenOff missed] at hheld
          simp at hheld
        rw [lastUnder_cons_of_ne hne]
        exact h.made k e (htrim.within k e hheld)

theorem Traced.turn (hadds : handle.AddsNothing) {s : Service η ω} (h : Traced s)
    (turn : Turn) : Traced (s.turn handle routes limit turn) := by
  cases turn with
  | answer a t => exact h.answer hadds a t
  | change ch =>
      exact h.of_within (h.emptyWhenOff.change ch) (fun _ _ he => Cache.change_within he)
        fun _ => rfl

theorem Traced.run_of_addsNothing (hadds : handle.AddsNothing) (turns : List Turn)
    {s : Service η ω} (h : Traced s) : Traced (s.run handle routes limit turns) := by
  induction turns generalizing s with
  | nil => exact h
  | cons turn turns ih => exact ih (h.turn hadds turn)

theorem Traced.run (hspare : handle.SparesCache) (turns : List Turn) {s : Service η ω}
    (h : Traced s) : Traced (s.run handle routes limit turns) :=
  h.run_of_addsNothing hspare.addsNothing turns

/-! ## §3. Answers from the cache. -/

/-- **An answer from the cache is the last answer.**  Whatever was dispatched
and changed before, if the cache answers a request, then its binding may be
cached and its method only reads, and the answer is, but for the mark, what the
handler returned in the last exchange in which it ran under the request's key.
That was a success, and the mark is the only value of its header. -/
theorem hit_is_last_answer (handle : Handling η ω) (routes : RouteTable η) (limit : Nat)
    (hspare : handle.SparesCache) (config : CacheConfig) (world : ω) (turns : List Turn)
    (a : Arrival) (t : Readings) (e : Entry)
    (hhit : (exchange handle routes limit a t
      ((Service.start config world).run handle routes limit turns).site).course = .hit e) :
    ∃ binding params x r,
      routes.resolve? a.method a.path = some (binding, params)
        ∧ binding.cacheable = true ∧ (a.method = .get ∨ a.method = .head)
        ∧ lastUnder (.new binding.name params a.query)
          ((Service.start config world).run handle routes limit turns).past = some x
        ∧ x.arrival.method.isRead = true
        ∧ x.outcome? = some (.reply r) ∧ r.status.isSuccess = true
        ∧ (let answer := (dispatch handle routes limit a t
            ((Service.start config world).run handle routes limit turns).site).response
          answer.status = r.status ∧ answer.body = r.body
            ∧ (∀ n, n ≠ .xCache → answer.headers.values n = r.headers.values n)
            ∧ answer.headers.values .xCache = [HeaderValue.ofString "HIT"]) := by
  have htraced : Traced ((Service.start config world).run handle routes limit turns) :=
    (traced_start config world).run hspare turns
  generalize (Service.start config world).run handle routes limit turns = s at htraced hhit ⊢
  have hx := answering handle routes limit a t s.site
  -- Only one course is an answer from the cache.
  cases hx with
  | unmatched _ course_eq => rw [course_eq] at hhit; simp at hhit
  | refused _ _ _ _ _ _ course_eq => rw [course_eq] at hhit; simp at hhit
  | handled _ _ _ _ _ _ _ _ course_eq => rw [course_eq] at hhit; simp at hhit
  | hit binding params e' resolved found course_eq response_eq _ =>
      obtain ⟨k, hkey, hheld⟩ := Cache.lookUp_eq_some found
      obtain ⟨hcacheable, hread, rfl⟩ := Binding.cacheKey?_eq_some hkey
      obtain ⟨x, hlast, hmade⟩ := htraced.made _ _ hheld
      refine ⟨binding, params, x, e'.response, resolved, hcacheable, ?_, hlast, hmade.isRead,
        hmade.returned, hmade.success, ?_⟩
      · simpa [Method.isRead] using hread
      · have hanswer : (dispatch handle routes limit a t s.site).response = e'.hit := response_eq
        rw [hanswer]
        refine ⟨Entry.hit_status e', Entry.hit_body e', fun n hn => ?_, ?_⟩
        · rw [Entry.hit_values, if_neg hn]
        · rw [Entry.hit_values, if_pos rfl]

/-- A greeting that is asked for again is the last one but for the mark, which
the page had set itself. -/
theorem Page.hello_is_last_answer :
    let s := (Service.start {} 0).run (Handling.apart Page.act) Page.table 0
      [.answer (Page.ask .get "/hello/ada") ⟨7, 7, 7⟩]
    let again := dispatch (Handling.apart Page.act) Page.table 0
      (Page.ask .head "/hello/ada") ⟨8, 9, 9⟩ s.site
    ∃ x r, lastUnder (.new "hello" [("name", "ada")] none) s.past = some x
      ∧ x.outcome? = some (.reply r) ∧ again.response.body = r.body
      ∧ again.response.headers.values .xCache = [HeaderValue.ofString "HIT"] := by
  intro s again
  obtain ⟨b, params, x, r, hb, -, -, hlast, -, hreturned, -, -, hbody, -, hmark⟩ :=
    hit_is_last_answer (Handling.apart Page.act) Page.table 0 (fun _ _ _ => rfl) {} 0
      [.answer (Page.ask .get "/hello/ada") ⟨7, 7, 7⟩] (Page.ask .head "/hello/ada") ⟨8, 9, 9⟩
      ⟨_, 7⟩ rfl
  have hresolved : some ("hello", [("name", "ada")]) = some (b.name, params) :=
    congrArg (Option.map (Prod.map Binding.name id)) hb
  obtain ⟨hname, hparams⟩ := Prod.mk.inj (Option.some.inj hresolved)
  rw [← hname, ← hparams] at hlast
  exact ⟨x, r, hlast, hreturned, hbody, hmark⟩

end Switchyard
