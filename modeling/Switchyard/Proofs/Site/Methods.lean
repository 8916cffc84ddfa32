/-
  Switchyard.Proofs.Site.Methods
  ──────────────────────────────
  Which methods an answer from the cache may come from.  `HEAD` is admitted
  wherever `GET` is, and a key does not tell them apart; so where the handler
  last ran for a `HEAD`, that answer is the one that a `GET` gets.  What is
  certain is the handler, the key, and that the method only reads.

      Exchange.Ran — a handler ran as the table says; kept by every turn

  Main statements:

      Endpoint.handle_addsNothing — the server's own endpoints add no entry
      hit_source                  — where an answer from the cache comes from
      Page.head_answers_get       — an answer to `HEAD` that a `GET` gets
-/
import Switchyard.Proofs.Site.Transparency
import Switchyard.Site.Context

namespace Switchyard

variable {η ω : Type} {handle : Handling η ω} {routes : RouteTable η} {limit : Nat}

/-! ## §1. Exchanges in which a handler ran. -/

/-- In the exchange the table gave the request to the binding, whose handler
ran on it and ended with the outcome. -/
structure Exchange.Ran (handle : Handling η ω) (routes : RouteTable η) (x : Exchange η)
    (binding : Binding η) (params : Params) (o : Outcome) : Prop where
  resolved : routes.resolve? x.arrival.method x.arrival.path = some (binding, params)
  key?_eq : x.key? = binding.cacheKey? params x.arrival
  outcome_eq : ∃ body site,
    o = (handle binding.handler (x.arrival.toRequest params body) site).outcome

/-- Only a handler that the table names ends with an outcome. -/
theorem exchange_ran (a : Arrival) (t : Readings) (site : Site ω) {o : Outcome}
    (h : (exchange handle routes limit a t site).outcome? = some o) :
    ∃ binding params,
      (exchange handle routes limit a t site).Ran handle routes binding params o := by
  have hx := answering handle routes limit a t site
  have harrival : (exchange handle routes limit a t site).arrival = a := rfl
  have houtcome : (exchange handle routes limit a t site).course.outcome? handle
      { site with cache := (course routes limit a t.lookup site.cache).2 } = some o := h
  generalize exchange handle routes limit a t site = x at h hx harrival houtcome ⊢
  cases hx with
  | unmatched _ course_eq | hit _ _ _ _ _ course_eq | refused _ _ _ _ _ _ course_eq =>
      -- No handler ran.
      rw [course_eq] at houtcome
      simp [Course.outcome?] at houtcome
  | handled binding params body done resolved _ _ ran course_eq outcome_eq =>
      refine ⟨binding, params, ?_, ?_, body, { site with
        cache := (site.cache.lookUp (binding.cacheKey? params a) t.lookup).2 }, ?_⟩
      · rw [harrival]
        exact resolved
      · rw [Exchange.key?, course_eq, harrival]
      · rw [harrival, ← ran]
        exact Option.some.inj (h.symm.trans outcome_eq)

/-- What is so of every exchange that can be made is so of all that are made. -/
theorem Service.forall_past_turn {P : Exchange η → Prop}
    (hmade : ∀ a t site, P (exchange handle routes limit a t site)) {s : Service η ω}
    (h : ∀ x ∈ s.past, P x) (turn : Turn) : ∀ x ∈ (s.turn handle routes limit turn).past, P x := by
  cases turn with
  | answer a t =>
      intro x hx
      rcases List.mem_cons.mp hx with rfl | hx
      · exact hmade a t s.site
      · exact h x hx
  | change ch => exact h

theorem Service.forall_past_run {P : Exchange η → Prop}
    (hmade : ∀ a t site, P (exchange handle routes limit a t site)) (turns : List Turn)
    {s : Service η ω} (h : ∀ x ∈ s.past, P x) :
    ∀ x ∈ (s.run handle routes limit turns).past, P x := by
  induction turns generalizing s with
  | nil => exact h
  | cons turn turns ih => exact ih (s.forall_past_turn hmade h turn)

theorem mem_of_lastUnder {k : CacheKey} {past : List (Exchange η)} {x : Exchange η}
    (h : lastUnder k past = some x) : x ∈ past ∧ x.key? = some k :=
  ⟨List.mem_of_find?_eq_some h, by simpa using List.find?_some h⟩

/-- Requests that share a key are answered by the same binding with the same
captures. -/
theorem Exchange.Ran.eq_of_key (hroutes : routes.Registered) {x : Exchange η}
    {binding binding' : Binding η} {params params' : Params} {o : Outcome} {query? : Option String}
    (h : x.Ran handle routes binding' params' o) (hmem : binding ∈ routes.bindings)
    (hkey : x.key? = some (.new binding.name params query?)) :
    binding' = binding ∧ params' = params
      ∧ CacheKey.new binding.name params x.arrival.query = .new binding.name params query? := by
  have hkey' := h.key?_eq.symm.trans hkey
  obtain ⟨-, -, hnew⟩ := Binding.cacheKey?_eq_some hkey'
  obtain ⟨hname, rfl, -⟩ := CacheKey.new_inj hnew
  obtain rfl := hroutes.eq_of_name hmem (RouteTable.mem_of_resolve? h.resolved) hname
  exact ⟨rfl, rfl, hnew.symm⟩

/-! ## §2. Handlers that add no entry. -/

theorem AdminAction.perform_cache {α : Type} (action : AdminAction) (site : Site (Context α ω)) :
    (action.perform site).2.cache = site.cache
      ∨ (action.perform site).2.cache = site.cache.change .clear := by
  cases action with
  | clearCache => exact Or.inr rfl
  | status | routes | cacheStats => exact Or.inl rfl

/-- **The server's own endpoints add no entry** to the cache, though one of the
admin routes clears it. -/
theorem Endpoint.handle_addsNothing {α : Type} {app : Handling α (Context α ω)}
    (happ : app.AddsNothing) : (Endpoint.handle app).AddsNothing := by
  -- An admin route leaves the cache alone or clears it, the others leave it alone.
  have hcases : ∀ endpoint request (site : Site (Context α ω)),
      (∃ handler, endpoint = .app handler)
        ∨ (Endpoint.handle app endpoint request site).site.cache = site.cache
        ∨ (Endpoint.handle app endpoint request site).site.cache = site.cache.change .clear := by
    intro endpoint request site
    cases endpoint with
    | app handler => exact Or.inl ⟨handler, rfl⟩
    | echoText | echoJson | files source => exact Or.inr (Or.inl rfl)
    | admin key action =>
        right
        unfold Endpoint.handle
        by_cases hgranted : Access.isGranted key request.headers = true
        · simp only [hgranted, if_true]
          exact action.perform_cache site
        · simp only [hgranted]
          exact Or.inl rfl
  constructor
  · intro endpoint request site k e he
    rcases hcases endpoint request site with ⟨handler, rfl⟩ | hsame | hclear
    · exact happ.within handler request site k e he
    · rwa [hsame] at he
    · rw [hclear] at he
      exact Cache.change_within he
  · intro endpoint request site hoff
    rcases hcases endpoint request site with ⟨handler, rfl⟩ | hsame | hclear
    · exact happ.emptyWhenOff handler request site hoff
    · rwa [hsame]
    · rw [hclear]
      exact hoff.change .clear

/-! ## §3. Answers from the cache. -/

/-- **Where an answer from the cache comes from.**  Let a table be made by
registration and let its handlers add no entry to the cache.  Whatever they
make of a request's method, if the cache answers a request, the answer has the
status and the body that the handler of the request's binding returned in the
last exchange in which it ran under the request's key.  That exchange had the
same binding, captures and key, and its method was `GET` or `HEAD`. -/
theorem hit_source (handle : Handling η ω) (routes : RouteTable η) (limit : Nat)
    (hroutes : routes.Registered) (hadds : handle.AddsNothing) (config : CacheConfig) (world : ω)
    (turns : List Turn) (a : Arrival) (t : Readings) (e : Entry)
    (hhit : (exchange handle routes limit a t
      ((Service.start config world).run handle routes limit turns).site).course = .hit e) :
    ∃ binding params x r,
      routes.resolve? a.method a.path = some (binding, params)
        ∧ lastUnder (.new binding.name params a.query)
          ((Service.start config world).run handle routes limit turns).past = some x
        ∧ x.Ran handle routes binding params (.reply r)
        ∧ CacheKey.new binding.name params x.arrival.query = .new binding.name params a.query
        ∧ (x.arrival.method = .get ∨ x.arrival.method = .head)
        ∧ (let answer := (dispatch handle routes limit a t
            ((Service.start config world).run handle routes limit turns).site).response
          answer.status = r.status ∧ answer.body = r.body) := by
  have htraced : Traced ((Service.start config world).run handle routes limit turns) :=
    (traced_start config world).run_of_addsNothing hadds turns
  have hran : ∀ x ∈ ((Service.start config world).run handle routes limit turns).past,
      ∀ o, x.outcome? = some o → ∃ binding params, x.Ran handle routes binding params o :=
    Service.forall_past_run (fun a t site _ => exchange_ran a t site) turns
      fun x hx => absurd hx List.not_mem_nil
  generalize (Service.start config world).run handle routes limit turns = s at htraced hran hhit ⊢
  have hx := answering handle routes limit a t s.site
  cases hx with
  | unmatched _ course_eq | refused _ _ _ _ _ _ course_eq | handled _ _ _ _ _ _ _ _ course_eq =>
      rw [course_eq] at hhit
      simp at hhit
  | hit binding params e' resolved found _ response_eq _ =>
      obtain ⟨k, hkey, hheld⟩ := Cache.lookUp_eq_some found
      obtain ⟨-, -, rfl⟩ := Binding.cacheKey?_eq_some hkey
      -- The entry was made by an exchange with this key, and the key leads back
      -- to the binding.
      obtain ⟨x, hlast, hmade⟩ := htraced.made _ _ hheld
      obtain ⟨hmem, hxkey⟩ := mem_of_lastUnder hlast
      obtain ⟨binding', params', hbinding⟩ := hran x hmem _ hmade.returned
      obtain ⟨rfl, rfl, hnew⟩ :=
        hbinding.eq_of_key hroutes (RouteTable.mem_of_resolve? resolved) hxkey
      refine ⟨binding', params', x, e'.response, resolved, hlast, hbinding, hnew, ?_, ?_⟩
      · simpa [Method.isRead] using hmade.isRead
      · have hanswer : (dispatch handle routes limit a t s.site).response = e'.hit := response_eq
        rw [hanswer]
        exact ⟨e'.hit_status, e'.hit_body⟩

/-- Pages that tell the method that they were asked with. -/
def Page.tell : Page → Request → Nat → Outcome × Nat
  | _, r, n => (.reply (.new .ok (Utf8.encode r.method.token)), n)

/-- A page that a `HEAD` came for first is given to a `GET`. -/
theorem Page.tell_source :
    let s := (Service.start {} 0).run (Handling.apart Page.tell) Page.table 0
      [.answer (Page.ask .head "/hello/ada") ⟨7, 7, 7⟩]
    ∃ b x r, (Exchange.Ran (Handling.apart Page.tell) Page.table x b [("name", "ada")] (.reply r))
      ∧ lastUnder (.new "hello" [("name", "ada")] none) s.past = some x
      ∧ (dispatch (Handling.apart Page.tell) Page.table 0 (Page.ask .get "/hello/ada") ⟨8, 9, 9⟩
        s.site).response.body = r.body := by
  intro s
  have hspare : (Handling.apart Page.tell).SparesCache := fun _ _ _ => rfl
  obtain ⟨b, params, x, r, hb, hlast, hran, -, -, -, hbody⟩ :=
    hit_source (Handling.apart Page.tell) Page.table 0 Page.table_registered hspare.addsNothing {} 0
      [.answer (Page.ask .head "/hello/ada") ⟨7, 7, 7⟩] (Page.ask .get "/hello/ada") ⟨8, 9, 9⟩
      ⟨_, 7⟩ rfl
  have hresolved : some ("hello", [("name", "ada")]) = some (b.name, params) :=
    congrArg (Option.map (Prod.map Binding.name id)) hb
  obtain ⟨hname, hparams⟩ := Prod.mk.inj (Option.some.inj hresolved)
  rw [← hname, ← hparams] at hlast
  rw [← hparams] at hran
  exact ⟨b, x, r, hran, hlast, hbody⟩

/-- **A `GET` gets an answer to a `HEAD`.**  The cache answers it with what the
page told the one request before it, and no handler ever ran for a `GET`. -/
theorem Page.head_answers_get :
    let s := (Service.start {} 0).run (Handling.apart Page.tell) Page.table 0
      [.answer (Page.ask .head "/hello/ada") ⟨7, 7, 7⟩]
    let x := exchange (Handling.apart Page.tell) Page.table 0 (Page.ask .get "/hello/ada")
      ⟨8, 9, 9⟩ s.site
    (∃ e, x.course = .hit e)
      ∧ x.response.body = Utf8.encode "HEAD"
      ∧ ¬ ∃ y ∈ s.past, y.arrival.method = .get
        ∧ y.key? = some (.new "hello" [("name", "ada")] none)
        ∧ ∃ r, y.outcome? = some (.reply r)
          ∧ x.response.status = r.status ∧ x.response.body = r.body := by
  intro s x
  refine ⟨⟨⟨_, 7⟩, rfl⟩, by decide, ?_⟩
  rintro ⟨y, hy, hget, -⟩
  obtain rfl := List.mem_singleton.mp hy
  revert hget
  decide

/-- A page that writes what is to be answered into the cache itself. -/
def Page.forge : Handling Page Nat := fun _ r site =>
  { outcome := .reply (.ofStatus .badRequest)
    site := { site with
      cache := site.cache.put (.new "hello" r.params r.query)
        ⟨.new .ok (Utf8.encode "forged"), 0⟩ 0 }
    events := [] }

/-- That handlers add no entry cannot be left out: what was never returned is
answered. -/
example :
    let s := (Service.start {} 0).run Page.forge Page.table 0
      [.answer (Page.ask .get "/hello/ada") ⟨7, 7, 7⟩]
    s.responses.map Response.status = [.badRequest]
      ∧ (dispatch Page.forge Page.table 0 (Page.ask .get "/hello/ada") ⟨8, 9, 9⟩
        s.site).response.body = Utf8.encode "forged" := by
  decide

end Switchyard
