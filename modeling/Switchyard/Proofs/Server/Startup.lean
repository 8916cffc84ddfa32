/-
  Switchyard.Proofs.Server.Startup
  ────────────────────────────────
  A server over whole runs: it is prepared, started and stopped, in any order,
  on machines where sockets can be bound or not.  Its own routes are registered
  once, by the first call that prepares it; the state moves on even if one of
  them is refused, and a start after that goes ahead without them.

      Call, call  — one call of a server, and how it ends
      Advances    — all that a call can do to the state and the routes
      Accounted   — kept by every call: the routes, and what was refused

  Main statements:

      advances_call — one case for each way in which a call can end
      started_with_builtins_iff
-/
import Switchyard.Proofs.Site.Builtin
import Switchyard.Server

namespace Switchyard.Server

open RouteDraft

variable {α ω : Type}

/-! ## §1. Calls. -/

/-- What a server is told.  A call that needs the machine is told how it is. -/
inductive Call where
  | prepare
  | start (host : Host)
  | stop (host : Host)

/-- How a call ends, and the server after it. -/
def call (s : Server α ω) : Call → Except ServerError Unit × Server α ω
  | .prepare => s.prepare
  | .start host =>
      let (started, s, _) := s.start host
      (started.map fun _ => (), s)
  | .stop host =>
      let (stopped, s, _) := s.stop host
      (stopped.mapError .lifecycle, s)

/-- How some calls end, one after the other, and the server after them. -/
def run (s : Server α ω) : List Call → List (Except ServerError Unit) × Server α ω
  | [] => ([], s)
  | c :: calls =>
      let (answer, s) := s.call c
      let (answers, s) := s.run calls
      (answer :: answers, s)

/-- The routes of the server with those that its configuration asks for, as far
as they could be added, and whether all could. -/
def builtins (s : Server α ω) : Except RouteError Unit × RouteTable (Endpoint α) :=
  registerAll s.context.routes s.context.config.builtinRoutes

/-! ## §2. What a call can do. -/

/-- **All that a call can do** to the state of a server and to its routes. -/
inductive Advances (s : Server α ω) : Except ServerError Unit → Server α ω → Prop where
  /-- It fails, but not for a route, and nothing changes. -/
  | fails {e : ServerError} {s' : Server α ω} (other : ∀ r, e ≠ .routes r)
      (state : s'.state = s.state) (routes : s'.context.routes = s.context.routes) :
      Advances s (.error e) s'
  /-- It registers the built-in routes; the answer tells whether all were added. -/
  | prepares {a : Except ServerError Unit} {s' : Server α ω} (created : s.state = .created)
      (state : s'.state = .initialized ∨ s'.state = .running)
      (routes : s'.context.routes = s.builtins.2)
      (answer : s.builtins.1 = .ok () ↔ ∀ r, a ≠ .error (.routes r)) : Advances s a s'
  /-- It starts a server that was prepared before. -/
  | starts {s' : Server α ω} (prepared : s.state = .initialized) (state : s'.state = .running)
      (routes : s'.context.routes = s.context.routes) : Advances s (.ok ()) s'
  | stops {s' : Server α ω} (state : s'.state = .stopped) : Advances s (.ok ()) s'

theorem prepare_of_created {s : Server α ω} (h : s.state = .created) :
    s.prepare = (s.builtins.1.mapError .routes,
      s.withContext { s.context with lifecycle := .initialized, routes := s.builtins.2 }) := by
  unfold prepare
  rw [h]
  rfl

theorem prepare_of_not_created {s : Server α ω} (h : s.state ≠ .created) :
    s.prepare = (.error (.lifecycle ⟨s.state, .initialized⟩), s) := by
  unfold prepare
  cases hs : s.state with
  | created => exact absurd hs h
  | initialized | running | stopping | stopped => rfl

/-- Taking over the sockets changes neither the routes nor the configuration. -/
theorem accept_routes (s : Server α ω) (host : Host) (a : BoundAddresses) :
    (s.accept host a).1.state = .running
      ∧ (s.accept host a).1.context.routes = s.context.routes
      ∧ (s.accept host a).1.context.config = s.context.config := by
  have hwarm : (s.site.warm host.now).1.world = s.site.world := by
    unfold Site.warm
    split <;> rfl
  refine ⟨rfl, ?_, ?_⟩
  · show (s.site.warm host.now).1.world.routes = _
    rw [hwarm]
    rfl
  · show (s.site.warm host.now).1.world.config = _
    rw [hwarm]
    rfl

/-- Starting a server that is prepared is binding its sockets. -/
theorem start_eq_of_initialized {s : Server α ω} (h : s.state = .initialized) (host : Host) :
    s.start host = match host.bindAll s.context.files s.context.config.listener with
      | .error e => (.error (.listener e), s, [])
      | .ok (a, warnings) => (.ok a, (s.accept host a).1, warnings ++ (s.accept host a).2) := by
  have hcreated : s.state ≠ .created := by
    rw [h]
    decide
  unfold start
  rw [if_neg hcreated]
  refine (if_neg (not_not.mpr h)).trans ?_
  cases host.bindAll s.context.files s.context.config.listener with
  | error e => rfl
  | ok bound => rfl

/-- It runs once they are bound. -/
theorem start_of_initialized {s : Server α ω} (h : s.state = .initialized) (host : Host) :
    (∃ e, s.start host = (.error (.listener e), s, []))
      ∨ ∃ a events, s.start host = (.ok a, (s.accept host a).1, events) := by
  rw [start_eq_of_initialized h]
  cases host.bindAll s.context.files s.context.config.listener with
  | error e => exact .inl ⟨e, rfl⟩
  | ok bound => exact .inr ⟨bound.1, _, rfl⟩

/-- Starting a new server is preparing it, and then starting it if no route was
refused. -/
theorem start_of_created {s : Server α ω} (h : s.state = .created) (host : Host) :
    s.start host = match s.prepare with
      | (.error e, s') => (.error e, s', [])
      | (.ok (), s') => s'.start host := by
  have hprepare := prepare_of_created h
  rw [start, if_pos h, hprepare]
  cases s.builtins.1 with
  | error e => rfl
  | ok _ => rfl

theorem start_of_other {s : Server α ω} (hcreated : s.state ≠ .created)
    (hinitialized : s.state ≠ .initialized) (host : Host) :
    s.start host = (.error (.lifecycle ⟨s.state, .running⟩), s, []) := by
  unfold start
  simp only [if_neg hcreated, if_pos hinitialized]

/-- A server that is prepared runs with what is bound. -/
theorem bound_of_start {s s' : Server α ω} {host : Host} {a : BoundAddresses}
    {events : List Event} (hs : s.state = .initialized)
    (h : s.start host = (.ok a, s', events)) : ∃ warnings,
      host.bindAll s.context.files s.context.config.listener = .ok (a, warnings)
        ∧ s' = (s.accept host a).1 := by
  rw [start_eq_of_initialized hs] at h
  cases hall : host.bindAll s.context.files s.context.config.listener with
  | error e =>
      rw [hall] at h
      exact absurd (Prod.mk.inj h).1 (by simp)
  | ok bound =>
      rw [hall] at h
      obtain ⟨ha, hrest⟩ := Prod.mk.inj h
      obtain rfl : bound.1 = a := Except.ok.inj ha
      exact ⟨bound.2, rfl, (Prod.mk.inj hrest).1.symm⟩

/-- **What a start does that succeeds**: the sockets are bound that the
configuration asks for, and a server takes them over that is prepared, now or
before. -/
theorem of_start_eq_ok {s s' : Server α ω} {host : Host} {a : BoundAddresses}
    {events : List Event} (h : s.start host = (.ok a, s', events)) :
    ∃ (prepared : Server α ω) (warnings : List Event), prepared.state = .initialized
      ∧ host.bindAll s.context.files s.context.config.listener = .ok (a, warnings)
      ∧ s' = (prepared.accept host a).1 := by
  by_cases hcreated : s.state = .created
  · rw [start_of_created hcreated, prepare_of_created hcreated] at h
    cases hbuiltins : s.builtins.1 with
    | error e =>
        rw [hbuiltins] at h
        exact absurd (Prod.mk.inj h).1 (by simp)
    | ok _ =>
        -- Preparing the server changes neither its files nor its configuration.
        rw [hbuiltins] at h
        obtain ⟨warnings, hall, hs'⟩ := bound_of_start (s := s.withContext
          { s.context with lifecycle := .initialized, routes := s.builtins.2 }) rfl h
        exact ⟨_, warnings, rfl, hall, hs'⟩
  by_cases hinitialized : s.state = .initialized
  · obtain ⟨warnings, hall, hs'⟩ := bound_of_start hinitialized h
    exact ⟨s, warnings, hinitialized, hall, hs'⟩
  · rw [start_of_other hcreated hinitialized] at h
    exact absurd (Prod.mk.inj h).1 (by simp)

/-- A start that succeeds leaves the server running. -/
theorem state_of_start {s s' : Server α ω} {host : Host} {a : BoundAddresses}
    {events : List Event} (h : s.start host = (.ok a, s', events)) : s'.state = .running := by
  obtain ⟨prepared, -, -, -, rfl⟩ := of_start_eq_ok h
  exact (prepared.accept_routes host a).1

theorem stop_cases (s : Server α ω) (host : Host) :
    (∃ e, (s.stop host).1 = .error e ∧ (s.stop host).2.1 = s)
      ∨ ((s.stop host).1 = .ok () ∧ (s.stop host).2.1.state = .stopped
        ∧ (s.stop host).2.1.context.config = s.context.config) := by
  have hshutDown : (s.shutDown host).1.context.config = s.context.config := by
    show s.site.save.2.world.config = _
    rfl
  unfold stop
  cases hs : s.state with
  | created | initialized => exact .inr ⟨rfl, rfl, rfl⟩
  | running => exact .inr ⟨rfl, rfl, hshutDown⟩
  | stopping | stopped => exact .inl ⟨_, rfl, rfl⟩

/-- The answer of a registration tells whether all routes were added. -/
theorem builtins_ok_iff (s : Server α ω) :
    s.builtins.1 = .ok ()
      ↔ ∀ r, s.builtins.1.mapError ServerError.routes ≠ .error (.routes r) := by
  cases s.builtins.1 with
  | error e => simp [Except.mapError]
  | ok _ => simp [Except.mapError]

theorem advances_start (s : Server α ω) (host : Host) :
    s.Advances (s.call (.start host)).1 (s.call (.start host)).2
      ∧ (s.call (.start host)).2.context.config = s.context.config := by
  by_cases hcreated : s.state = .created
  · -- A new server is prepared first.  What is refused there ends the start; if
    -- nothing is, the start goes on with a server that is prepared.
    have hanswer := s.builtins_ok_iff
    simp only [call, start_of_created hcreated, prepare_of_created hcreated]
    cases hbuiltins : s.builtins.1 with
    | error e =>
        rw [hbuiltins] at hanswer
        exact ⟨.prepares hcreated (.inl rfl) rfl (by rw [hbuiltins]; exact hanswer), rfl⟩
    | ok _ =>
        generalize hs' : s.withContext _ = s'
        have hstate : s'.state = .initialized := by rw [← hs']; rfl
        have hroutes : s'.context.routes = s.builtins.2 := by rw [← hs']; rfl
        have hconfig : s'.context.config = s.context.config := by rw [← hs']; rfl
        rcases start_of_initialized hstate host with ⟨e, he⟩ | ⟨a, events, ha⟩
        · simp only [Except.mapError, he]
          refine ⟨.prepares hcreated (.inl hstate) hroutes ?_, hconfig⟩
          simp [hbuiltins, Except.map]
        · obtain ⟨hrunning, hsame, hkept⟩ := s'.accept_routes host a
          simp only [Except.mapError, ha]
          refine ⟨.prepares hcreated (.inr hrunning) (hsame.trans hroutes) ?_,
            hkept.trans hconfig⟩
          simp [hbuiltins, Except.map]
  by_cases hinitialized : s.state = .initialized
  · -- Prepared before, so no route is looked at again.
    rcases start_of_initialized hinitialized host with ⟨e, he⟩ | ⟨a, events, ha⟩
    · rw [call, he]
      exact ⟨.fails (by simp) rfl rfl, rfl⟩
    · obtain ⟨hrunning, hsame, hkept⟩ := s.accept_routes host a
      simp only [call, ha]
      exact ⟨.starts hinitialized hrunning hsame, hkept⟩
  · rw [call, start_of_other hcreated hinitialized]
    exact ⟨.fails (by simp) rfl rfl, rfl⟩

/-- **A call does one of these things**, and never changes the configuration. -/
theorem advances_call (s : Server α ω) (c : Call) :
    s.Advances (s.call c).1 (s.call c).2 ∧ (s.call c).2.context.config = s.context.config := by
  cases c with
  | prepare =>
      by_cases hcreated : s.state = .created
      · simp only [call, prepare_of_created hcreated]
        exact ⟨.prepares hcreated (.inl rfl) rfl s.builtins_ok_iff, rfl⟩
      · rw [call, prepare_of_not_created hcreated]
        exact ⟨.fails (by simp) rfl rfl, rfl⟩
  | start host => exact s.advances_start host
  | stop host =>
      show s.Advances ((s.stop host).1.mapError .lifecycle) (s.stop host).2.1
        ∧ (s.stop host).2.1.context.config = _
      rcases s.stop_cases host with ⟨e, he, hs⟩ | ⟨hok, hstate, hconfig⟩
      · rw [he, hs]
        exact ⟨.fails (by simp) rfl rfl, rfl⟩
      · rw [hok]
        exact ⟨.stops hstate, hconfig⟩

/-- A server that is new after a call was new before, and nothing happened. -/
theorem Advances.of_created {s s' : Server α ω} {a : Except ServerError Unit}
    (h : s.Advances a s') (hstate : s'.state = .created) :
    s.state = .created ∧ s'.context.routes = s.context.routes
      ∧ ∀ r, a ≠ .error (.routes r) := by
  cases h with
  | fails other state routes =>
      refine ⟨state.symm.trans hstate, routes, ?_⟩
      simpa using other
  -- The other calls leave a state that is not this one.
  | prepares _ state | starts _ state | stops state =>
      rw [hstate] at state
      exact absurd state (by decide)

/-- A server that is prepared after a call was prepared before, and no route was
looked at, or it was new, and the call registered its routes. -/
theorem Advances.of_prepared {s s' : Server α ω} {a : Except ServerError Unit}
    (h : s.Advances a s') (hstate : s'.state = .initialized ∨ s'.state = .running) :
    ((s.state = .initialized ∨ s.state = .running) ∧ s'.context.routes = s.context.routes
        ∧ ∀ r, a ≠ .error (.routes r))
      ∨ s.state = .created ∧ s'.context.routes = s.builtins.2
        ∧ (s.builtins.1 = .ok () ↔ ∀ r, a ≠ .error (.routes r)) := by
  cases h with
  | fails other state routes =>
      rw [state] at hstate
      refine .inl ⟨hstate, routes, ?_⟩
      simpa using other
  | prepares created _ routes answer => exact .inr ⟨created, routes, answer⟩
  | starts prepared _ routes => exact .inl ⟨.inl prepared, routes, by simp⟩
  | stops state =>
      rw [state] at hstate
      exact absurd hstate (by decide)

/-! ## §3. Whole runs. -/

/-- What holds of a server after some calls: before one prepares it, nothing was
added to its routes and none was refused; from then on, until it is stopped, its
routes are those that could be added, and one was refused if not all could. -/
structure Accounted (config : Config) (routes : RouteTable (Endpoint α))
    (answers : List (Except ServerError Unit)) (s : Server α ω) : Prop where
  config_eq : s.context.config = config
  fresh : s.state = .created →
    s.context.routes = routes ∧ ∀ r, .error (.routes r) ∉ answers
  ready : s.state = .initialized ∨ s.state = .running →
    s.context.routes = (registerAll routes config.builtinRoutes).2
      ∧ ((registerAll routes config.builtinRoutes).1 = .ok ()
        ↔ ∀ r, .error (.routes r) ∉ answers)

theorem accounted_new (config : Config) (routes : RouteTable (Endpoint α)) (files : FileSystem)
    (app : ω) : (new config routes files app).Accounted config routes [] where
  config_eq := rfl
  fresh := fun _ => ⟨rfl, fun _ => List.not_mem_nil⟩
  ready := by
    rintro (h | h)
    · exact Lifecycle.noConfusion h
    · exact Lifecycle.noConfusion h

/-- **Every call keeps the account**: only one that prepares the server adds routes
or refuses one, and it does so on a server that no call did this to before. -/
theorem Accounted.call {config : Config} {routes : RouteTable (Endpoint α)}
    {answers : List (Except ServerError Unit)} {s : Server α ω}
    (h : s.Accounted config routes answers) (c : Call) :
    (s.call c).2.Accounted config routes (answers ++ [(s.call c).1]) := by
  obtain ⟨hadvances, hconfig⟩ := s.advances_call c
  generalize (s.call c).1 = a at hadvances ⊢
  generalize (s.call c).2 = s' at hadvances hconfig ⊢
  have hmem (r : RouteError) :
      .error (.routes r) ∉ answers ++ [a]
        ↔ .error (.routes r) ∉ answers ∧ a ≠ .error (.routes r) := by
    rw [List.mem_append, List.mem_singleton, not_or, ne_comm]
  -- A server that is created afterwards was so before; one that is prepared was prepared
  -- before, or is so by this call.
  refine ⟨hconfig.trans h.config_eq, ?_, ?_⟩
  · intro hstate
    obtain ⟨hcreated, hsame, hother⟩ := hadvances.of_created hstate
    obtain ⟨hroutes, hnone⟩ := h.fresh hcreated
    exact ⟨hsame.trans hroutes, fun r => (hmem r).mpr ⟨hnone r, hother r⟩⟩
  · intro hstate
    simp only [hmem]
    rcases hadvances.of_prepared hstate with
      ⟨hprepared, hsame, hother⟩ | ⟨hcreated, hadded, hanswer⟩
    · obtain ⟨hroutes, hnone⟩ := h.ready hprepared
      exact ⟨hsame.trans hroutes, hnone.trans (by simp [hother])⟩
    · -- No call before this one was refused for a route.
      obtain ⟨hroutes, hnone⟩ := h.fresh hcreated
      have hbuiltins : s.builtins = registerAll routes config.builtinRoutes := by
        rw [builtins, hroutes, h.config_eq]
      rw [hbuiltins] at hadded hanswer
      exact ⟨hadded, hanswer.trans (by simp [hnone])⟩

theorem Accounted.run {config : Config} {routes : RouteTable (Endpoint α)}
    {answers : List (Except ServerError Unit)} {s : Server α ω}
    (h : s.Accounted config routes answers) (calls : List Call) :
    (s.run calls).2.Accounted config routes (answers ++ (s.run calls).1) := by
  -- Each call adds its answer behind those before it.
  induction calls generalizing s answers with
  | nil =>
      show s.Accounted config routes (answers ++ [])
      rw [List.append_nil]
      exact h
  | cons c calls ih =>
      have hrest := ih (h.call c)
      rw [List.append_assoc] at hrest
      exact hrest

/-- **A running server has its own routes exactly if none was refused.**  Let a
start succeed after any calls, on whatever machines.  Then the server runs, and
its routes are those of the application with the built-in ones that were added
behind them, once.  All that the configuration asks for were added exactly if no
call before ended with a route that was refused, and that is exactly if no route
of the application has a built-in name. -/
theorem started_with_builtins_iff (config : Config) (routes : RouteTable (Endpoint α))
    (files : FileSystem) (app : ω) (calls : List Call) (host : Host) {a : BoundAddresses}
    {s' : Server α ω} {events : List Event}
    (h : ((new config routes files app).run calls).2.start host = (.ok a, s', events)) :
    s'.state = .running
      ∧ s'.context.routes = (registerAll routes config.builtinRoutes).2
      ∧ ((registerAll routes config.builtinRoutes).1 = .ok ()
        ↔ ∀ r, .error (.routes r) ∉ ((new config routes files app).run calls).1)
      ∧ ((registerAll routes config.builtinRoutes).1 = .ok ()
        ↔ ∀ d ∈ (config.builtinRoutes : List (RouteDraft α)), d.name ∉ routes.names)
      ∧ ((registerAll routes config.builtinRoutes).1 = .ok () →
        ∃ bs, config.builtinRoutes.mapM toBinding = .ok bs
          ∧ s'.context.routes.bindings = routes.bindings ++ bs) := by
  have hrunning := state_of_start h
  have hcalls := (accounted_new config routes files app).run calls
  have hstarted := hcalls.call (.start host)
  -- The start itself ends well, so what was refused was refused before.
  have hcall : ((new config routes files app).run calls).2.call (.start host) = (.ok (), s') := by
    simp only [Server.call, h]
    rfl
  rw [hcall] at hstarted
  obtain ⟨hroutes, hnone⟩ := hstarted.ready (.inr hrunning)
  refine ⟨hrunning, hroutes, ?_, config.builtinRoutes_ok_iff routes, ?_⟩
  · rw [hnone]
    simp
  · intro hok
    obtain ⟨bs, hbs, hall⟩ :=
      Config.registerAll_builtinRoutes ((config.builtinRoutes_ok_iff routes).mp hok)
    refine ⟨bs, hbs, ?_⟩
    rw [hroutes, hall]

/-- A machine where every socket can be bound. -/
def freeHost : Host where
  network := ⟨fun _ => true, true, []⟩
  usableKeys := fun _ _ => true
  parallelism := 1
  drainsInTime := true
  now := 0

/-- Prepared first, and started without routes of an application. -/
theorem started_with_files :
    ∃ a s events,
      ((new {} (.empty : RouteTable (Endpoint Unit)) .empty ()).run [.prepare]).2.start freeHost
          = (.ok a, s, events)
        ∧ s.state = .running ∧ s.context.routes.names = ["static-index", "static-files"] := by
  have hok : (((new {} (.empty : RouteTable (Endpoint Unit)) .empty ()).run
      [.prepare]).2.start freeHost).1.toOption.isSome = true := by
    decide +kernel
  rcases hstart : ((new {} (.empty : RouteTable (Endpoint Unit)) .empty ()).run
      [.prepare]).2.start freeHost with ⟨_ | a, s, events⟩
  · rw [hstart] at hok
    exact absurd hok (by simp [Except.toOption])
  · obtain ⟨hrunning, hroutes, -⟩ :=
      started_with_builtins_iff {} .empty .empty () [.prepare] freeHost hstart
    refine ⟨a, s, events, rfl, hrunning, ?_⟩
    rw [hroutes]
    decide +kernel

/-- The routes of an application that has a page under a built-in name. -/
def takenIndex : RouteTable (Endpoint Unit) :=
  ⟨[(Binding.new ⟨"home", [.literal "home"], .closed⟩ (.app ())).withName "static-index"]⟩

/-- **Without its static files it runs as well**: the first start is refused for
their first route, and the second goes ahead.  Then nothing answers for `/`. -/
theorem started_without_files :
    let (answers, s) := (new {} takenIndex .empty ()).run [.start freeHost]
    let (started, s', _) := s.start freeHost
    answers = [.error (.routes (.duplicateName "static-index"))]
      ∧ started.toOption.isSome = true
      ∧ s'.state = .running
      ∧ s'.context.config.staticFiles.enabled = true
      ∧ s'.context.routes.names = ["static-index"]
      ∧ (s'.context.routes.resolve? .get "/").isNone = true := by
  decide +kernel

end Switchyard.Server
