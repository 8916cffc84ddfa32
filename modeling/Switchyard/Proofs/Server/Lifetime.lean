/-
  Switchyard.Proofs.Server.Lifetime
  ─────────────────────────────────
  The life of a server, whatever calls it gets and however they end.  It moves
  forward only, starts once at most, and keeps the addresses that this start
  told; a start that fails leaves it what it holds, and once it is stopped no
  call does anything.

      Happening, follow — calls, and all else that goes on between them
      SameHoldings      — the workers, the sockets and the addresses stay
      Moves             — all that can happen to the state and the addresses
      Started           — kept by all that happens: the addresses are those told

  Main statements:

      start_cases — all that a start can do to what a server holds
      moves_after — whatever happens is one of the moves
      lives_forward
-/
import Switchyard.Proofs.Server.Startup

namespace Switchyard

/-- How far a server has come. -/
def Lifecycle.stage : Lifecycle → Nat
  | .created => 0
  | .initialized => 1
  | .running => 2
  | .stopping => 3
  | .stopped => 4

namespace Server

variable {α ω : Type}

/-! ## §1. What happens to a server. -/

/-- What may happen to a server. -/
inductive Happening (α ω : Type) where
  | call (c : Call)
  /-- Requests are answered, routes are added, files change. -/
  | meanwhile (site : Site (Context α ω)) (pool : Pool Nat)

/-- Between calls everything may change but the configuration, the state, the
sockets with their addresses, and whether there are workers. -/
def meanwhile (s : Server α ω) (site : Site (Context α ω)) (pool : Pool Nat) : Server α ω :=
  { s with
    site := { site with
      world := { site.world with
        config := s.context.config, lifecycle := s.state, addresses := s.context.addresses } }
    pool := s.pool.map fun _ => pool }

def after (s : Server α ω) : Happening α ω → Server α ω
  | .call c => (s.call c).2
  | .meanwhile site pool => s.meanwhile site pool

/-- The addresses that are told by a start that succeeds. -/
def told (s : Server α ω) : Happening α ω → List BoundAddresses
  | .call (.start host) => (s.start host).1.toOption.toList
  | _ => []

/-- The addresses that are told while some things happen, in order, and the
server after them. -/
def follow (s : Server α ω) : List (Happening α ω) → List BoundAddresses × Server α ω
  | [] => ([], s)
  | h :: hs =>
      let (later, s') := (s.after h).follow hs
      (s.told h ++ later, s')

/-! ## §2. One call. -/

/-- The workers, the sockets and the addresses are the same. -/
structure SameHoldings (s s' : Server α ω) : Prop where
  pool : s'.pool = s.pool
  listeners : s'.listeners = s.listeners
  addresses : s'.context.addresses = s.context.addresses

theorem SameHoldings.refl (s : Server α ω) : s.SameHoldings s := ⟨rfl, rfl, rfl⟩

/-- Preparing a server touches nothing that it holds, and moves it on if it is
new. -/
theorem prepare_holds (s : Server α ω) :
    s.SameHoldings s.prepare.2
      ∧ (s.prepare.2.state = s.state ∨ s.state = .created ∧ s.prepare.2.state = .initialized) := by
  by_cases hcreated : s.state = .created
  · rw [prepare_of_created hcreated]
    exact ⟨⟨rfl, rfl, rfl⟩, .inr ⟨hcreated, rfl⟩⟩
  · rw [prepare_of_not_created hcreated]
    exact ⟨.refl s, .inl rfl⟩

/-- Addresses that were recorded stay; if there are none, those told are. -/
theorem accept_addresses (s : Server α ω) (host : Host) (a : BoundAddresses) :
    (s.accept host a).1.context.addresses = (s.context.addresses <|> some a) := by
  have hwarm : (s.site.warm host.now).1.world = s.site.world := by
    unfold Site.warm
    split <;> rfl
  show ((s.site.warm host.now).1.world.addresses <|> some a) = _
  rw [hwarm]
  rfl

/-- **All that a start can do** to what a server holds: it fails and touches
nothing, or it succeeds on a server that was not started. -/
theorem start_cases (s : Server α ω) (host : Host) :
    (∃ e, (s.start host).1 = .error e ∧ s.SameHoldings (s.start host).2.1
        ∧ ((s.start host).2.1.state = s.state
          ∨ s.state = .created ∧ (s.start host).2.1.state = .initialized))
      ∨ ∃ a, (s.start host).1 = .ok a ∧ (s.state = .created ∨ s.state = .initialized)
        ∧ (s.start host).2.1.state = .running
        ∧ (s.start host).2.1.context.addresses = (s.context.addresses <|> some a) := by
  by_cases hcreated : s.state = .created
  · have hprepare := prepare_of_created hcreated
    rw [start_of_created hcreated, hprepare]
    cases s.builtins.1 with
    | error e => exact .inl ⟨_, rfl, ⟨rfl, rfl, rfl⟩, .inr ⟨hcreated, rfl⟩⟩
    | ok _ =>
        -- The rest is the start of a server that is prepared.
        generalize hs' : s.withContext _ = s'
        have hstate : s'.state = .initialized := by rw [← hs']; rfl
        have hholds : s.SameHoldings s' := by rw [← hs']; exact ⟨rfl, rfl, rfl⟩
        rcases start_of_initialized hstate host with ⟨e, he⟩ | ⟨a, events, ha⟩
        · simp only [Except.mapError, he]
          exact .inl ⟨_, rfl, hholds, .inr ⟨hcreated, hstate⟩⟩
        · simp only [Except.mapError, ha]
          refine .inr ⟨a, rfl, .inl hcreated, (s'.accept_routes host a).1, ?_⟩
          rw [accept_addresses, hholds.addresses]
  by_cases hinitialized : s.state = .initialized
  · rcases start_of_initialized hinitialized host with ⟨e, he⟩ | ⟨a, events, ha⟩
    · rw [he]
      exact .inl ⟨_, rfl, .refl s, .inl rfl⟩
    · rw [ha]
      exact .inr ⟨a, rfl, .inr hinitialized, (s.accept_routes host a).1, s.accept_addresses host a⟩
  · rw [start_of_other hcreated hinitialized]
    exact .inl ⟨_, rfl, .refl s, .inl rfl⟩

/-- Stopping succeeds in three states. -/
theorem stop_ok_iff (s : Server α ω) (host : Host) :
    (s.stop host).1 = .ok ()
      ↔ s.state = .created ∨ s.state = .initialized ∨ s.state = .running := by
  unfold stop
  cases s.state with
  | created | initialized | running => simp [Lifecycle.transition, Lifecycle.canMoveTo]
  | stopping | stopped => simp [Lifecycle.transition, Lifecycle.canMoveTo]

/-- Stopping leaves the addresses recorded. -/
theorem stop_addresses (s : Server α ω) (host : Host) :
    (s.stop host).2.1.context.addresses = s.context.addresses := by
  unfold stop
  cases s.state with
  | created | initialized | running | stopping | stopped => rfl

/-- Once it is stopped no call does anything. -/
theorem calls_of_stopped {s : Server α ω} (h : s.state = .stopped) :
    s.prepare = (.error (.lifecycle ⟨.stopped, .initialized⟩), s)
      ∧ ∀ host, s.start host = (.error (.lifecycle ⟨.stopped, .running⟩), s, [])
        ∧ s.stop host = (.error ⟨.stopped, .stopping⟩, s, []) := by
  have hcreated : s.state ≠ .created := by rw [h]; decide
  have hinitialized : s.state ≠ .initialized := by rw [h]; decide
  refine ⟨?_, fun host => ⟨?_, ?_⟩⟩
  · rw [prepare_of_not_created hcreated, h]
  · rw [start_of_other hcreated hinitialized, h]
  · unfold stop
    rw [h]
    rfl

/-! ## §3. Whatever happens. -/

/-- **All that can happen** to the state of a server and to its addresses. -/
inductive Moves (s : Server α ω) : List BoundAddresses → Server α ω → Prop where
  /-- It stays where it is, or a new server is prepared. -/
  | stays {s' : Server α ω} (addresses : s'.context.addresses = s.context.addresses)
      (state : s'.state = s.state ∨ s.state = .created ∧ s'.state = .initialized) :
      Moves s [] s'
  /-- It is started, and was not before. -/
  | starts {s' : Server α ω} {a : BoundAddresses}
      (before : s.state = .created ∨ s.state = .initialized) (state : s'.state = .running)
      (addresses : s'.context.addresses = (s.context.addresses <|> some a)) : Moves s [a] s'
  | stops {s' : Server α ω} (addresses : s'.context.addresses = s.context.addresses)
      (state : s'.state = .stopped) : Moves s [] s'

theorem moves_after (s : Server α ω) (h : Happening α ω) : s.Moves (s.told h) (s.after h) := by
  cases h with
  | meanwhile site pool => exact .stays rfl (.inl rfl)
  | call c =>
      cases c with
      | prepare =>
          obtain ⟨hholds, hstate⟩ := s.prepare_holds
          exact .stays hholds.addresses hstate
      -- A start that fails leaves the addresses and perhaps the new routes.
      | start host =>
          show s.Moves (s.start host).1.toOption.toList (s.start host).2.1
          rcases s.start_cases host with
            ⟨e, herror, hholds, hstate⟩ | ⟨a, hok, hbefore, hrunning, haddresses⟩
          · rw [herror]
            exact .stays hholds.addresses hstate
          · rw [hok]
            exact .starts hbefore hrunning haddresses
      | stop host =>
          show s.Moves [] (s.stop host).2.1
          rcases s.stop_cases host with ⟨_, _, hsame⟩ | ⟨_, hstopped, _⟩
          · rw [hsame]
            exact .stays rfl (.inl rfl)
          · exact .stops (s.stop_addresses host) hstopped

/-- A server is never moved back. -/
theorem Moves.stage_le {s s' : Server α ω} {told : List BoundAddresses} (h : s.Moves told s') :
    s.state.stage ≤ s'.state.stage := by
  cases h with
  | stays _ state =>
      rcases state with hsame | ⟨hcreated, hinitialized⟩
      · exact Nat.le_of_eq (congrArg Lifecycle.stage hsame.symm)
      · rw [hcreated, hinitialized]
        decide
  | starts before state _ =>
      rw [state]
      rcases before with h | h
      · rw [h]
        decide
      · rw [h]
        decide
  | stops _ state =>
      rw [state]
      cases s.state with
      | created | initialized | running | stopping | stopped => decide

/-- The addresses of the server are those that it told, and it told none before
it was started. -/
structure Started (told : List BoundAddresses) (s : Server α ω) : Prop where
  addresses : s.context.addresses.toList = told
  fresh : s.state = .created ∨ s.state = .initialized → told = []

theorem started_new (config : Config) (routes : RouteTable (Endpoint α)) (files : FileSystem)
    (app : ω) : Started [] (new config routes files app) := ⟨rfl, fun _ => rfl⟩

/-- A server that was not started recorded no addresses. -/
theorem Started.addresses_of_fresh {told : List BoundAddresses} {s : Server α ω}
    (h : Started told s) (hfresh : s.state = .created ∨ s.state = .initialized) :
    s.context.addresses = none :=
  Option.toList_eq_nil_iff.mp (h.addresses.trans (h.fresh hfresh))

/-- **Whatever happens, the addresses stay those that were told.** -/
theorem Started.moves {told more : List BoundAddresses} {s s' : Server α ω}
    (h : Started told s) (hmoves : s.Moves more s') : Started (told ++ more) s' := by
  cases hmoves with
  | stays addresses state =>
      rw [List.append_nil]
      refine ⟨by rw [addresses]; exact h.addresses, fun hfresh => h.fresh ?_⟩
      rcases state with hsame | ⟨hcreated, _⟩
      · rw [← hsame]
        exact hfresh
      · exact .inl hcreated
  | starts before state addresses =>
      -- Nothing was told before, so nothing was recorded.
      rw [h.fresh before]
      refine ⟨?_, ?_⟩
      · rw [addresses, h.addresses_of_fresh before]
        rfl
      · rw [state]
        simp
  | stops addresses state =>
      rw [List.append_nil]
      refine ⟨by rw [addresses]; exact h.addresses, ?_⟩
      rw [state]
      simp

/-! ## §4. Whole lives. -/

theorem stage_le_follow (s : Server α ω) (hs : List (Happening α ω)) :
    s.state.stage ≤ (s.follow hs).2.state.stage := by
  induction hs generalizing s with
  | nil => exact Nat.le_refl _
  | cons h hs ih => exact Nat.le_trans (s.moves_after h).stage_le (ih (s.after h))

theorem Started.follow {told : List BoundAddresses} {s : Server α ω} (h : Started told s)
    (hs : List (Happening α ω)) : Started (told ++ (s.follow hs).1) (s.follow hs).2 := by
  induction hs generalizing s told with
  | nil =>
      show Started (told ++ []) s
      rw [List.append_nil]
      exact h
  | cons x hs ih =>
      have hrest := ih (h.moves (s.moves_after x))
      rw [List.append_assoc] at hrest
      exact hrest

/-- Where addresses were told no later start succeeds, and they stay. -/
theorem Started.of_told {a : BoundAddresses} {s : Server α ω} (h : Started [a] s)
    (hs : List (Happening α ω)) :
    (s.follow hs).1 = [] ∧ (s.follow hs).2.context.addresses = some a := by
  -- All that was told are the addresses of one server, and it has one pair at most.
  have haddresses := (h.follow hs).addresses
  cases hnow : (s.follow hs).2.context.addresses with
  | none =>
      rw [hnow] at haddresses
      exact absurd haddresses (by simp)
  | some b =>
      rw [hnow] at haddresses
      obtain ⟨rfl, hnothing⟩ := List.cons.inj haddresses
      exact ⟨hnothing.symm, rfl⟩

/-- A start that succeeds is the first that does, and the last; one that fails
leaves what the server holds. -/
theorem Started.start {told : List BoundAddresses} {s : Server α ω} (h : Started told s)
    (host : Host) :
    match s.start host with
    | (.ok a, s', _) => told = [] ∧ s.context.addresses = none
        ∧ ∀ later, (s'.follow later).1 = [] ∧ (s'.follow later).2.context.addresses = some a
    | (.error _, s', _) => s.SameHoldings s' := by
  have hafter := h.moves (s.moves_after (.call (.start host)))
  have hcases := s.start_cases host
  simp only [Server.told, Server.after, call] at hafter
  rcases hstart : s.start host with ⟨answer, s', events⟩
  rw [hstart] at hafter hcases
  cases answer with
  | error e =>
      rcases hcases with ⟨_, _, hholds, _⟩ | ⟨_, hok, _⟩
      · exact hholds
      · exact absurd hok (by simp)
  | ok a =>
      rcases hcases with ⟨_, herror, _⟩ | ⟨_, _, hbefore, _, _⟩
      · exact absurd herror (by simp)
      · -- It was not started before, so what it tells is the first.
        have hnone : told = [] := h.fresh hbefore
        rw [hnone] at hafter
        exact ⟨hnone, h.addresses_of_fresh hbefore, hafter.of_told⟩

/-- Where stopping succeeds, the server is stopped. -/
theorem stopped_of_ok {s : Server α ω} {host : Host} (h : (s.stop host).1 = .ok ()) :
    (s.stop host).2.1.state = .stopped := by
  rcases s.stop_cases host with ⟨e, herror, _⟩ | ⟨_, hstopped, _⟩
  · rw [herror] at h
    exact absurd h (by simp)
  · exact hstopped

/-- **A server lives forward.**  Whatever calls it got, on whatever machines, and
whatever else happened between them:

  • its state never moves back;
  • it told addresses once at most, and its addresses are those that it told;
  • a start that succeeds is the first that does, no later one succeeds, and from
    then on the addresses are those that it told;
  • a start that fails leaves the workers, the sockets and the addresses;
  • it can be stopped exactly if it was not yet started or runs, and then it is
    stopped, whether or not the workers finish in time and the cache is saved;
  • once it is stopped every call fails and changes nothing. -/
theorem lives_forward (config : Config) (routes : RouteTable (Endpoint α)) (files : FileSystem)
    (app : ω) (before : List (Happening α ω)) :
    let (told, s) := (new config routes files app).follow before
    (∀ later, s.state.stage ≤ (s.follow later).2.state.stage)
      ∧ (told.length ≤ 1 ∧ s.context.addresses = told.head?)
      ∧ (∀ host, match s.start host with
          | (.ok a, s', _) => told = [] ∧ s.context.addresses = none
              ∧ ∀ later, (s'.follow later).1 = []
                ∧ (s'.follow later).2.context.addresses = some a
          | (.error _, s', _) => s.SameHoldings s')
      ∧ (∀ host, ((s.stop host).1 = .ok ()
            ↔ s.state = .created ∨ s.state = .initialized ∨ s.state = .running)
          ∧ ((s.stop host).1 = .ok () → (s.stop host).2.1.state = .stopped))
      ∧ (s.state = .stopped →
          s.prepare = (.error (.lifecycle ⟨.stopped, .initialized⟩), s)
          ∧ ∀ host, s.start host = (.error (.lifecycle ⟨.stopped, .running⟩), s, [])
            ∧ s.stop host = (.error ⟨.stopped, .stopping⟩, s, [])) := by
  have hstarted : Started ([] ++ ((new config routes files app).follow before).1)
      ((new config routes files app).follow before).2 :=
    (started_new config routes files app).follow before
  rw [List.nil_append] at hstarted
  show let told := ((new config routes files app).follow before).1
    let s := ((new config routes files app).follow before).2
    _ ∧ _ ∧ _ ∧ _ ∧ _
  -- Of the life so far only the invariant matters.
  generalize ((new config routes files app).follow before).1 = told at hstarted ⊢
  generalize ((new config routes files app).follow before).2 = s at hstarted ⊢
  refine ⟨s.stage_le_follow, ?_, hstarted.start, fun host => ⟨s.stop_ok_iff host, stopped_of_ok⟩,
    calls_of_stopped⟩
  rw [← hstarted.addresses]
  cases s.context.addresses with
  | none => exact ⟨Nat.zero_le _, rfl⟩
  | some a => exact ⟨Nat.le_refl _, rfl⟩

/-- A machine where the workers do not finish in time. -/
def busyHost : Host :=
  ⟨⟨fun _ => true, true, []⟩, fun _ _ => true, 1, false, 0⟩

/-- A server on it that runs, with nowhere to save its cache. -/
def busy : Server Unit Unit :=
  let config : Config := { cache := { persistencePath := some "missing/cache.json" } }
  ((new config .empty .empty ()).start busyHost).2.1

/-- Neither the workers nor the snapshot have to go well for a server to stop. -/
example :
    busy.state = .running ∧ (busy.stop busyHost).1 = .ok ()
      ∧ (busy.stop busyHost).2.1.state = .stopped
      ∧ (busy.stop busyHost).2.2 = [.drainTimedOut 0, .snapshotNotSaved .notFound] := by
  decide +kernel

end Server

end Switchyard
