/-
  Switchyard.Proofs.Site.Admin
  ────────────────────────────
  What a site answers on its admin routes.  Their answers are never kept, so every
  request gets to the guard once its body is read.  Whoever does not present the
  key gets one and the same answer everywhere, and nothing changes.  Whoever does
  is let in, if the key is plain text.

      Site.serve          — the answer with the site's own routes and limit
      Config.IsAdminRoute — the bindings that a configuration's admin routes make

  Main statements:

      serve_admin                    — all that an admin route can do
      unauthenticated_learns_nothing
      presented_key_opens_iff
      Guarded.accented_key_refused   — a valid key that opens nothing
-/
import Switchyard.Proofs.Http.Body
import Switchyard.Proofs.Site.Access
import Switchyard.Proofs.Site.Builtin
import Switchyard.Server

namespace Switchyard

/-! ## §1. Requests that the cache has no part in. -/

/-- Where a binding's answers are not kept, its handler gets each request whose
body can be read, and the cache is left to it. -/
theorem dispatch_of_uncached {η ω : Type} (handle : Handling η ω) {routes : RouteTable η}
    (limit : Nat) {a : Arrival} (t : Readings) (site : Site ω) {b : Binding η} {params : Params}
    (hroute : routes.resolve? a.method a.path = some (b, params)) (huncached : b.cacheable = false) :
    dispatch handle routes limit a t site
      = match readBody limit a.body with
        | .error e => ⟨e.response, site, []⟩
        | .ok body =>
            let handled := handle b.handler (a.toRequest params body) site
            ⟨handled.outcome.response, handled.site,
              handled.events ++ handled.outcome.events (a.tag b.name)⟩ := by
  have hkey : b.cacheKey? params a = none := by
    simp [Binding.cacheKey?, huncached]
  unfold dispatch course
  rw [hroute]
  simp only [hkey, Cache.lookUp]
  cases readBody limit a.body with
  | error e => rfl
  | ok body => rfl

/-! ## §2. Admin routes. -/

section

variable {α ω : Type}

/-- The binding is one that the admin routes of a configuration make. -/
def Config.IsAdminRoute (c : Config) (b : Binding (Endpoint α)) : Prop :=
  ∃ d ∈ Config.adminRoutes c.admin.apiKey, d.toBinding = .ok b

/-- Every admin route asks for the key of its configuration, and its answers are
not kept. -/
theorem Config.IsAdminRoute.guarded {c : Config} {b : Binding (Endpoint α)}
    (h : c.IsAdminRoute b) :
    b.cacheable = false ∧ ∃ action, b.handler = .admin c.admin.apiKey action := by
  obtain ⟨d, hd, hb⟩ := h
  obtain ⟨hhandler, hcacheable⟩ := RouteDraft.endpoint_of_toBinding hb
  rw [hhandler, hcacheable]
  simp only [Config.adminRoutes, List.mem_cons, List.not_mem_nil, or_false] at hd
  rcases hd with rfl | rfl | rfl | rfl <;> exact ⟨rfl, _, rfl⟩

/-- A valid configuration with admin routes has a key. -/
theorem Config.IsValid.apiKey_ne_empty {c : Config} (h : c.IsValid)
    (henabled : c.admin.enabled = true) : c.admin.apiKey ≠ "" := by
  intro hempty
  have hmissing := (List.append_eq_nil_iff.mp h).2
  rw [Config.violates, if_pos ⟨henabled, by rw [hempty]; rfl⟩] at hmissing
  exact absurd hmissing (List.cons_ne_nil _ _)

/-- What a site answers, with its own routes and its own limit. -/
def Site.serve (app : Handling α (Context α ω)) (s : Site (Context α ω)) (a : Arrival)
    (t : Readings) : Dispatched (Context α ω) :=
  dispatch (Endpoint.handle app) s.world.routes s.world.config.listener.maxBodyBytes a t s

/-- **All that an admin route can do.** -/
theorem Site.serve_admin (app : Handling α (Context α ω)) (s : Site (Context α ω)) (a : Arrival)
    (t : Readings) {b : Binding (Endpoint α)} {params : Params}
    (hroute : s.world.routes.resolve? a.method a.path = some (b, params))
    (hadmin : s.world.config.IsAdminRoute b) :
    ∃ action, b.handler = .admin s.world.config.admin.apiKey action
      ∧ s.serve app a t = match readBody s.world.config.listener.maxBodyBytes a.body with
        | .error e => ⟨e.response, s, []⟩
        | .ok _ =>
            if Access.isGranted s.world.config.admin.apiKey a.headers
            then ⟨.json (action.perform s).1, (action.perform s).2, []⟩
            else ⟨.ofStatus .unauthorized, s, [.accessDenied a.path a.peer]⟩ := by
  obtain ⟨huncached, action, hhandler⟩ := hadmin.guarded
  refine ⟨action, hhandler, ?_⟩
  rw [serve, dispatch_of_uncached _ _ t s hroute huncached, hhandler]
  cases readBody s.world.config.listener.maxBodyBytes a.body with
  | error e => rfl
  | ok body =>
      -- The guard sees the headers as they came, and the body is not looked at.
      have hheaders : (a.toRequest params body).headers = a.headers := rfl
      simp only [Endpoint.handle, hheaders]
      cases Access.isGranted s.world.config.admin.apiKey a.headers with
      | true => rfl
      | false => rfl

end

/-! ## §3. A server with nothing but its admin routes. -/

namespace Guarded

/-- Admin routes that a key opens, and no other routes. -/
def config (key : String) : Config :=
  { staticFiles := { enabled := false }, admin := { enabled := true, apiKey := key } }

/-- The site of a server with this configuration that has its routes. -/
def site (key : String) : Site (Context Unit Unit) :=
  (Server.new (config key) .empty .empty ()).prepare.2.site

/-- The same, later: it runs, and the cache holds an answer and was asked for it. -/
def siteInUse (key : String) : Site (Context Unit Unit) :=
  let cache := (site key).cache.put ⟨"home", [], none⟩ ⟨.text (Utf8.encode "hello"), 7⟩ 7
  ⟨{ cache with hits := 3, misses := 1 }, { (site key).world with lifecycle := .running }⟩

/-- The application has no routes, so its handler is asked for nothing. -/
def app : Handling Unit (Context Unit Unit) := fun _ _ site => site.reply .notFound

/-- A request for the counters of the cache. -/
def ask (authorization : String) : Arrival :=
  { method := .get, path := "/admin/cache", query := none
    headers := Headers.empty.add .authorization (.ofString authorization), body := []
    peer := "127.0.0.1:40000", transport := .plain }

/-- Whatever route of such a site takes a request, it is an admin route. -/
theorem isAdminRoute {key : String} {b : Binding (Endpoint Unit)} {method : Method}
    {path : String} {params : Params}
    (h : (site key).world.routes.resolve? method path = some (b, params)) :
    (config key).IsAdminRoute b := by
  have hmem : b ∈ (RouteDraft.registerAll .empty (config key).builtinRoutes).2.bindings :=
    RouteTable.mem_of_resolve? h
  rcases RouteDraft.of_mem_registerAll hmem with hb | hmade
  · exact absurd hb List.not_mem_nil
  · exact hmade

end Guarded

/-! ## §4. Without the key. -/

/-- **Whoever does not present the key learns nothing and changes nothing.**  Let two
sites, of whatever applications, keys, caches, routes and states, both give a request
to an admin route, with a body within the limits of both.  If its first
`Authorization` value is not `Bearer ` and the key of either, both answer `401` with
the same octets and report the same, and both are left as they were. -/
theorem unauthenticated_learns_nothing {α₁ ω₁ α₂ ω₂ : Type}
    (app₁ : Handling α₁ (Context α₁ ω₁)) (app₂ : Handling α₂ (Context α₂ ω₂))
    (s₁ : Site (Context α₁ ω₁)) (s₂ : Site (Context α₂ ω₂)) (a : Arrival) (t₁ t₂ : Readings)
    (pieces : List Bytes) {b₁ : Binding (Endpoint α₁)} {b₂ : Binding (Endpoint α₂)}
    {params₁ params₂ : Params}
    (hroute₁ : s₁.world.routes.resolve? a.method a.path = some (b₁, params₁))
    (hroute₂ : s₂.world.routes.resolve? a.method a.path = some (b₂, params₂))
    (hadmin₁ : s₁.world.config.IsAdminRoute b₁) (hadmin₂ : s₂.world.config.IsAdminRoute b₂)
    (hbody : a.body = pieces.map .data)
    (hfits₁ : pieces.flatten.length ≤ s₁.world.config.listener.maxBodyBytes)
    (hfits₂ : pieces.flatten.length ≤ s₂.world.config.listener.maxBodyBytes)
    (hkey₁ : ¬ a.headers.Presents s₁.world.config.admin.apiKey)
    (hkey₂ : ¬ a.headers.Presents s₂.world.config.admin.apiKey) :
    (s₁.serve app₁ a t₁).response = .ofStatus .unauthorized
      ∧ (s₂.serve app₂ a t₂).response = (s₁.serve app₁ a t₁).response
      ∧ (s₂.serve app₂ a t₂).events = (s₁.serve app₁ a t₁).events
      ∧ (s₁.serve app₁ a t₁).site = s₁ ∧ (s₂.serve app₂ a t₂).site = s₂ := by
  -- Were the request let in, it would present the key.
  have hdenied {key : String} (h : ¬ a.headers.Presents key) :
      ¬ Access.isGranted key a.headers = true :=
    fun hgranted => h (Access.isGranted_iff.mp hgranted).2.2
  obtain ⟨action₁, -, hserve₁⟩ := s₁.serve_admin app₁ a t₁ hroute₁ hadmin₁
  obtain ⟨action₂, -, hserve₂⟩ := s₂.serve_admin app₂ a t₂ hroute₂ hadmin₂
  rw [hbody, readBody_data, if_pos hfits₁] at hserve₁
  rw [hbody, readBody_data, if_pos hfits₂] at hserve₂
  simp only [if_neg (hdenied hkey₁)] at hserve₁
  simp only [if_neg (hdenied hkey₂)] at hserve₂
  rw [hserve₁, hserve₂]
  exact ⟨rfl, rfl, rfl, rfl, rfl⟩

/-- A new server and one in use, with different keys, answer a request that has
neither of them. -/
theorem Guarded.stranger_learns_nothing :
    let fresh := (site "s3cret").serve app (ask "Bearer s3cre") ⟨7, 7, 7⟩
    let used := (siteInUse "opens").serve app (ask "Bearer s3cre") ⟨9, 9, 9⟩
    fresh.response = .ofStatus .unauthorized ∧ used.response = fresh.response
      ∧ used.events = fresh.events ∧ fresh.site = site "s3cret"
      ∧ used.site = siteInUse "opens" := by
  have hfresh : ((site "s3cret").world.routes.resolve? .get "/admin/cache").isSome = true := by
    decide +kernel
  have hused : ((site "opens").world.routes.resolve? .get "/admin/cache").isSome = true := by
    decide +kernel
  obtain ⟨⟨b₁, params₁⟩, hroute₁⟩ := Option.isSome_iff_exists.mp hfresh
  obtain ⟨⟨b₂, params₂⟩, hroute₂⟩ := Option.isSome_iff_exists.mp hused
  exact unauthenticated_learns_nothing app app (site "s3cret") (siteInUse "opens")
    (ask "Bearer s3cre") ⟨7, 7, 7⟩ ⟨9, 9, 9⟩ [] hroute₁ hroute₂ (isAdminRoute hroute₁)
    (isAdminRoute hroute₂) rfl (Nat.zero_le _) (Nat.zero_le _) (by decide +kernel)
    (by decide +kernel)

/-! ## §5. With the key. -/

/-- **A key that is presented opens the admin routes exactly if it is plain text.**
Let the configuration be valid, and let a request to an admin route have `Bearer ` and
the key as its first `Authorization` value.  Once the body is read, the route does
what it is there for if the key holds nothing but tabs and printable ASCII; else the
answer is `401`.  A body that cannot be read is answered as such. -/
theorem presented_key_opens_iff {α ω : Type} (app : Handling α (Context α ω))
    (s : Site (Context α ω)) (a : Arrival) (t : Readings) {b : Binding (Endpoint α)}
    {params : Params} (hvalid : s.world.config.IsValid)
    (henabled : s.world.config.admin.enabled = true)
    (hroute : s.world.routes.resolve? a.method a.path = some (b, params))
    (hadmin : s.world.config.IsAdminRoute b)
    (hkey : a.headers.Presents s.world.config.admin.apiKey) :
    ∃ action, b.handler = .admin s.world.config.admin.apiKey action
      ∧ (∀ body, readBody s.world.config.listener.maxBodyBytes a.body = .ok body →
          s.serve app a t = if isPlainText s.world.config.admin.apiKey = true
            then ⟨.json (action.perform s).1, (action.perform s).2, []⟩
            else ⟨.ofStatus .unauthorized, s, [.accessDenied a.path a.peer]⟩)
      ∧ (∀ e, readBody s.world.config.listener.maxBodyBytes a.body = .error e →
          s.serve app a t = ⟨e.response, s, []⟩)
      ∧ ((s.serve app a t).response.status = .unauthorized
          ↔ (∃ body, readBody s.world.config.listener.maxBodyBytes a.body = .ok body)
            ∧ isPlainText s.world.config.admin.apiKey = false) := by
  have hgranted : Access.isGranted s.world.config.admin.apiKey a.headers
      = isPlainText s.world.config.admin.apiKey := by
    rw [Bool.eq_iff_iff, Access.isGranted_iff]
    exact ⟨fun h => h.2.1, fun h => ⟨hvalid.apiKey_ne_empty henabled, h, hkey⟩⟩
  obtain ⟨action, hhandler, hserve⟩ := s.serve_admin app a t hroute hadmin
  rw [hgranted] at hserve
  refine ⟨action, hhandler, fun body hbody => by rw [hserve, hbody],
    fun e hbody => by rw [hserve, hbody], ?_⟩
  rw [hserve]
  cases hbody : readBody s.world.config.listener.maxBodyBytes a.body with
  | error e =>
      -- Neither of the two answers to a body that cannot be read is this one.
      have hstatus : e.response.status ≠ .unauthorized := by
        unfold BodyError.response
        split <;> decide
      exact iff_of_false hstatus fun h => absurd h.1 (by simp)
  | ok body =>
      cases isPlainText s.world.config.admin.apiKey with
      | true =>
          have hstatus : (Response.json (action.perform s).1).status ≠ .unauthorized :=
            show Status.ok ≠ .unauthorized by decide
          exact iff_of_false hstatus fun h => absurd h.2 (by decide)
      | false => exact iff_of_true rfl ⟨⟨body, rfl⟩, rfl⟩

/-- Who presents this key is told the counters of the cache. -/
theorem Guarded.key_opens :
    (config "s3cret").IsValid ∧ (ask "Bearer s3cret").headers.Presents "s3cret"
      ∧ (site "s3cret").serve app (ask "Bearer s3cret") ⟨7, 7, 7⟩
        = ⟨.json (site "s3cret").cache.stats.toJson, site "s3cret", []⟩ := by
  have hvalid : (config "s3cret").IsValid := by
    decide +kernel
  have hkey : (ask "Bearer s3cret").headers.Presents "s3cret" := by
    decide +kernel
  have hfound : (((site "s3cret").world.routes.resolve? .get "/admin/cache").map
      fun (b, _) => b.handler matches .admin _ .cacheStats) = some true := by
    decide +kernel
  obtain ⟨⟨b, params⟩, hroute, hstats⟩ := Option.map_eq_some_iff.mp hfound
  obtain ⟨action, hhandler, hserve, -⟩ :=
    presented_key_opens_iff app (site "s3cret") (ask "Bearer s3cret") ⟨7, 7, 7⟩ hvalid rfl hroute
      (isAdminRoute hroute) hkey
  -- Of the four actions it is the one that the table has under this path.
  obtain rfl : action = .cacheStats := by
    simp only [hhandler] at hstats
    cases action with
    | cacheStats => rfl
    | status | routes | clearCache => exact absurd hstats Bool.false_ne_true
  exact ⟨hvalid, hkey, hserve [] rfl⟩

/-- **A valid key opens nothing.**  Its octets may stand in a header, and they do,
but the header cannot be read as text. -/
theorem Guarded.accented_key_refused :
    (config "clé").IsValid ∧ (ask "Bearer clé").headers.Presents "clé"
      ∧ (∃ b params, (site "clé").world.routes.resolve? .get "/admin/cache" = some (b, params)
          ∧ (config "clé").IsAdminRoute b)
      ∧ ((site "clé").serve app (ask "Bearer clé") ⟨7, 7, 7⟩).response.status
        = .unauthorized := by
  have hfound : ((site "clé").world.routes.resolve? .get "/admin/cache").isSome = true := by
    decide +kernel
  obtain ⟨⟨b, params⟩, hroute⟩ := Option.isSome_iff_exists.mp hfound
  exact ⟨by decide +kernel, by decide +kernel, ⟨b, params, hroute, isAdminRoute hroute⟩,
    by decide +kernel⟩

end Switchyard
