/-
  Switchyard.Proofs.Net.PortSearch
  ────────────────────────────────
  Which ports a search tries, and how it ends.  The search is run with an
  effect that notes down each port before it is bound, so that the ports and
  the result are those of one run.

      ports     — the ports from one to another
      lastPort  — the last port that a search may try
      StopsAt   — the first port from one to another that is not in use
      Ends      — the two ways in which a search ends
      traced    — the result of a search and the ports that it tries

  Main statement:

      search_tries_upwards
-/
import Mathlib.Data.List.Basic
import Switchyard.Net.Listener
import Switchyard.Proofs.Fallible

namespace Switchyard.Listener

variable {σ : Type} {bind : UInt16 → Except BindError σ} {host : String}

/-! ## §1. Ports in a row. -/

/-- The ports from one to another, upwards. -/
def ports (first last : UInt16) : List UInt16 :=
  (List.range' first.toNat (last.toNat + 1 - first.toNat)).map UInt16.ofNat

/-- Behind every port but the last there is another. -/
theorem toNat_succ {port : UInt16} (h : port.toNat ≠ 65535) :
    (port + 1).toNat = port.toNat + 1 := by
  have hlt : port.toNat < 65536 := port.toNat_lt
  rw [UInt16.toNat_add, UInt16.toNat_one, Nat.mod_eq_of_lt (by omega)]

theorem ports_self (port : UInt16) : ports port port = [port] := by
  have hone : port.toNat + 1 - port.toNat = 1 := by omega
  rw [ports, hone]
  simp

theorem ports_cons {first last : UInt16} (hfirst : first.toNat ≠ 65535) (h : first + 1 ≤ last) :
    ports first last = first :: ports (first + 1) last := by
  rw [UInt16.le_iff_toNat_le, toNat_succ hfirst] at h
  have hcount : last.toNat + 1 - first.toNat = last.toNat + 1 - (first.toNat + 1) + 1 := by omega
  rw [ports, ports, toNat_succ hfirst, hcount, List.range'_succ, List.map_cons,
    UInt16.ofNat_toNat]

theorem length_ports (first last : UInt16) :
    (ports first last).length = last.toNat + 1 - first.toNat := by
  simp [ports]

/-- Ports in a row are numbers in a row: none is left out, and none comes again. -/
theorem toNat_ports (first last : UInt16) :
    (ports first last).map UInt16.toNat
      = List.range' first.toNat (ports first last).length := by
  have hlast : last.toNat < 65536 := last.toNat_lt
  rw [length_ports, ports, List.map_map]
  conv_rhs => rw [← List.map_id (List.range' _ _)]
  refine List.map_congr_left fun n hn => ?_
  have hn' := List.mem_range'_1.mp hn
  exact UInt16.toNat_ofNat_of_lt (by show n < 65536; omega)

/-! ## §2. Where a search stops. -/

/-- The last port that a search may try: there are as many as attempts, at least
one, and none is above the last port there is. -/
def lastPort (port : UInt16) (attempts : Nat) : UInt16 :=
  .ofNat (min (port.toNat + max attempts 1 - 1) 65535)

/-- The first port from one to another that is not in use. -/
structure StopsAt (bind : UInt16 → Except BindError σ) (first last c : UInt16) : Prop where
  above : first ≤ c
  within : c ≤ last
  stops : bind c ≠ .error .inUse
  before : ∀ q, first ≤ q → q < c → bind q = .error .inUse

/-- The result of a search from a port to another, and the ports that it tried;
`asked` is the port that messages name. -/
inductive Ends (bind : UInt16 → Except BindError σ) (host : String) (asked first last : UInt16) :
    Except ListenerError σ → List UInt16 → Prop where
  /-- All ports are in use. -/
  | exhausted (all : ∀ q, first ≤ q → q ≤ last → bind q = .error .inUse) :
      Ends bind host asked first last (.error (.portsExhausted host asked last)) (ports first last)
  /-- The first that is not in use is bound, or refused for another reason. -/
  | stopped {c : UInt16} (stops : StopsAt bind first last c) :
      Ends bind host asked first last ((bind c).mapError (.bind host c)) (ports first c)

theorem toNat_lastPort (port : UInt16) (attempts : Nat) :
    (lastPort port attempts).toNat = min (port.toNat + max attempts 1 - 1) 65535 :=
  UInt16.toNat_ofNat_of_lt (by show min _ 65535 < 65536; omega)

theorem le_lastPort (port : UInt16) (attempts : Nat) : port ≤ lastPort port attempts := by
  have hlt : port.toNat < 65536 := port.toNat_lt
  rw [UInt16.le_iff_toNat_le, toNat_lastPort]
  omega

/-- One attempt, or the last port there is, leaves no other port. -/
theorem lastPort_eq_self {port : UInt16} {more : Nat} (h : more = 0 ∨ port.toNat = 65535) :
    lastPort port (more + 1) = port := by
  have hlt : port.toNat < 65536 := port.toNat_lt
  rw [← UInt16.toNat_inj, toNat_lastPort]
  omega

theorem lastPort_succ {port : UInt16} (h : port.toNat ≠ 65535) (more : Nat) :
    lastPort port (more + 2) = lastPort (port + 1) (more + 1) := by
  rw [← UInt16.toNat_inj, toNat_lastPort, toNat_lastPort, toNat_succ h]
  omega

/-- One attempt more than at least one is one port more, up to the last there is. -/
theorem length_ports_lastPort (port : UInt16) (attempts : Nat) :
    (ports port (lastPort port attempts)).length ≤ max attempts 1 := by
  rw [length_ports, toNat_lastPort]
  omega

theorem eq_or_succ_le {port q : UInt16} (hport : port.toNat ≠ 65535) (h : port ≤ q) :
    q = port ∨ port + 1 ≤ q := by
  rw [UInt16.le_iff_toNat_le] at h ⊢
  rw [← UInt16.toNat_inj, toNat_succ hport]
  omega

theorem le_of_succ_le {port q : UInt16} (hport : port.toNat ≠ 65535) (h : port + 1 ≤ q) :
    port ≤ q := by
  rw [UInt16.le_iff_toNat_le, toNat_succ hport] at h
  rw [UInt16.le_iff_toNat_le]
  omega

/-- A search of one port. -/
theorem ends_self {asked port : UInt16} (h : bind port = .error .inUse) :
    Ends bind host asked port port (.error (.portsExhausted host asked port)) [port] := by
  have hall : ∀ q, port ≤ q → q ≤ port → bind q = .error .inUse := fun q hle hge => by
    rw [UInt16.le_antisymm hge hle]
    exact h
  have hends : Ends bind host asked port port _ _ := .exhausted hall
  rw [ports_self] at hends
  exact hends

/-- A search that stops at its first port. -/
theorem ends_first {asked port last : UInt16} (hle : port ≤ last)
    (h : bind port ≠ .error .inUse) :
    Ends bind host asked port last ((bind port).mapError (.bind host port)) [port] := by
  have hstops : StopsAt bind port last port :=
    ⟨UInt16.le_refl port, hle, h, fun _ hge hlt => absurd hge (UInt16.not_le.mpr hlt)⟩
  have hends : Ends bind host asked port last _ _ := .stopped hstops
  rw [ports_self] at hends
  exact hends

/-- **A port in use is tried and passed over.** -/
theorem Ends.step {asked port last : UInt16} {result : Except ListenerError σ}
    {tried : List UInt16} (hport : port.toNat ≠ 65535) (hle : port + 1 ≤ last)
    (h : bind port = .error .inUse) (hends : Ends bind host asked (port + 1) last result tried) :
    Ends bind host asked port last result (port :: tried) := by
  cases hends with
  | exhausted all =>
      rw [← ports_cons hport hle]
      refine .exhausted fun q hge hle => ?_
      rcases eq_or_succ_le hport hge with rfl | hge
      · exact h
      · exact all q hge hle
  | @stopped c stops =>
      rw [← ports_cons hport stops.above]
      refine .stopped ⟨le_of_succ_le hport stops.above, stops.within, stops.stops, ?_⟩
      intro q hge hlt
      rcases eq_or_succ_le hport hge with rfl | hge
      · exact h
      · exact stops.before q hge hlt

/-! ## §3. Searching with notes. -/

/-- Binding a port, which is noted down as tried. -/
def noting (bind : UInt16 → Except BindError σ) (port : UInt16) :
    StateM (List UInt16) (Except BindError σ) := do
  modify (· ++ [port])
  return bind port

/-- The result of a search, and the ports that it tries in their order. -/
def traced (bind : UInt16 → Except BindError σ) (host : String) (port : UInt16)
    (attempts : Nat) : Except ListenerError σ × List UInt16 :=
  (searchFrom (noting bind) host port attempts).run []

theorem run_noting (port : UInt16) (tried : List UInt16) :
    (noting bind port).run tried = (bind port, tried ++ [port]) := rfl

/-- A port that is not in use ends the search, and so does the first if any port
was asked for. -/
theorem run_search_of_stops {asked port : UInt16} (h : bind port ≠ .error .inUse ∨ asked = 0)
    (more : Nat) (tried : List UInt16) :
    (search (noting bind) host asked more port).run tried
      = ((bind port).mapError (.bind host port), tried ++ [port]) := by
  rw [search.eq_def, StateT.run_bind, run_noting]
  cases hbind : bind port with
  | ok socket => rfl
  | error e =>
      cases e with
      | inUse =>
          obtain rfl : asked = 0 := h.resolve_left fun hne => hne hbind
          rfl
      | notAvailable => rfl
      | unresolved error => rfl

/-- A port in use ends it if there is none to try after it. -/
theorem run_search_of_last {asked port : UInt16} {more : Nat} (h : bind port = .error .inUse)
    (hasked : asked ≠ 0) (hlast : more = 0 ∨ port.toNat = 65535) (tried : List UInt16) :
    (search (noting bind) host asked more port).run tried
      = (.error (.portsExhausted host asked port), tried ++ [port]) := by
  rw [search.eq_def, StateT.run_bind, run_noting, h]
  cases more with
  | zero =>
      simp only [hasked, if_false]
      rfl
  | succ more =>
      have hmax : port.toNat = 65535 := hlast.resolve_left (by omega)
      simp only [hasked, hmax, if_false, if_true]
      rfl

/-- Otherwise the search goes on with the next. -/
theorem run_search_of_next {asked port : UInt16} (h : bind port = .error .inUse)
    (hasked : asked ≠ 0) (hport : port.toNat ≠ 65535) (more : Nat) (tried : List UInt16) :
    (search (noting bind) host asked (more + 1) port).run tried
      = (search (noting bind) host asked more (port + 1)).run (tried ++ [port]) := by
  rw [search, StateT.run_bind, run_noting, h]
  simp only [hasked, hport, if_false]
  rfl

/-- A search that tries one port. -/
theorem run_search_here {asked port : UInt16} {more : Nat} (hasked : asked ≠ 0)
    (h : bind port ≠ .error .inUse ∨ more = 0 ∨ port.toNat = 65535) (tried : List UInt16) :
    ∃ result here, (search (noting bind) host asked more port).run tried = (result, tried ++ here)
      ∧ Ends bind host asked port (lastPort port (more + 1)) result here := by
  by_cases hbind : bind port = .error .inUse
  · have hlast : more = 0 ∨ port.toNat = 65535 := h.resolve_left fun hne => hne hbind
    refine ⟨_, _, run_search_of_last hbind hasked hlast tried, ?_⟩
    rw [lastPort_eq_self hlast]
    exact ends_self hbind
  · exact ⟨_, _, run_search_of_stops (.inl hbind) more tried, ends_first (le_lastPort port _) hbind⟩

/-- **How a search ends**, whatever was noted before. -/
theorem run_search (bind : UInt16 → Except BindError σ) (host : String) {asked : UInt16}
    (hasked : asked ≠ 0) (more : Nat) (port : UInt16) (tried : List UInt16) :
    ∃ result here, (search (noting bind) host asked more port).run tried = (result, tried ++ here)
      ∧ Ends bind host asked port (lastPort port (more + 1)) result here := by
  -- A search is one port and, if that is in use, the search from the next on.
  induction more generalizing port tried with
  | zero => exact run_search_here hasked (.inr (.inl rfl)) tried
  | succ more ih =>
      by_cases hbind : bind port = .error .inUse
      case neg => exact run_search_here hasked (.inl hbind) tried
      by_cases hport : port.toNat = 65535
      case pos => exact run_search_here hasked (.inr (.inr hport)) tried
      obtain ⟨result, here, hrun, hends⟩ := ih (port + 1) (tried ++ [port])
      refine ⟨result, port :: here, ?_, ?_⟩
      · rw [run_search_of_next hbind hasked hport, hrun, List.append_assoc]
        rfl
      · rw [lastPort_succ hport]
        exact hends.step hport (le_lastPort (port + 1) _) hbind

/-- **Noting the ports changes nothing in the result.** -/
theorem fst_run_search (asked : UInt16) (more : Nat) (port : UInt16) (tried : List UInt16) :
    ((search (noting bind) host asked more port).run tried).1
      = (search (fun q => pure (bind q)) host asked more port : Id _).run := by
  -- Both take the same branch at each port, as both see the same answer of `bind`.
  induction more generalizing port tried with
  | zero =>
      rw [search, search, StateT.run_bind, run_noting, Id.run_bind]
      cases bind port with
      | ok socket => rfl
      | error e =>
          cases e with
          | inUse => by_cases hasked : asked = 0 <;> simp only [hasked] <;> rfl
          | notAvailable => rfl
          | unresolved error => rfl
  | succ more ih =>
      rw [search, search, StateT.run_bind, run_noting, Id.run_bind]
      cases bind port with
      | ok socket => rfl
      | error e =>
          cases e with
          | inUse =>
              by_cases hasked : asked = 0
              · simp only [hasked]
                rfl
              by_cases hport : port.toNat = 65535
              · simp only [hasked, hport]
                rfl
              · simp only [hasked, hport]
                exact ih (port + 1) (tried ++ [port])
          | notAvailable => rfl
          | unresolved error => rfl

/-! ## §4. Searches. -/

theorem traced_result (bind : UInt16 → Except BindError σ) (host : String) (port : UInt16)
    (attempts : Nat) : (traced bind host port attempts).1 = bindFrom bind host port attempts :=
  fst_run_search port _ port []

/-- A search for a given port. -/
theorem traced_ends (bind : UInt16 → Except BindError σ) (host : String) {port : UInt16}
    (hport : port ≠ 0) (attempts : Nat) :
    Ends bind host port port (lastPort port attempts) (traced bind host port attempts).1
      (traced bind host port attempts).2 := by
  obtain ⟨result, here, hrun, hends⟩ := run_search bind host hport (max attempts 1 - 1) port []
  have hlast : lastPort port (max attempts 1 - 1 + 1) = lastPort port attempts := by
    rw [lastPort, lastPort]
    congr 2
    omega
  have htraced : traced bind host port attempts = (result, here) := hrun
  rw [htraced, ← hlast]
  exact hends

/-- A search for any port. -/
theorem traced_zero (attempts : Nat) :
    traced bind host 0 attempts = ((bind 0).mapError (.bind host 0), [0]) :=
  run_search_of_stops (.inr rfl) (max attempts 1 - 1) []

theorem Ends.toNat_tried {asked first last : UInt16} {result : Except ListenerError σ}
    {tried : List UInt16} (h : Ends bind host asked first last result tried) :
    tried.map UInt16.toNat = List.range' first.toNat tried.length := by
  cases h with
  | exhausted => exact toNat_ports first last
  | @stopped c => exact toNat_ports first c

theorem Ends.length_tried_le {asked first last : UInt16} {result : Except ListenerError σ}
    {tried : List UInt16} (h : Ends bind host asked first last result tried) :
    tried.length ≤ (ports first last).length := by
  cases h with
  | exhausted => exact Nat.le_refl _
  | @stopped c stops =>
      have hwithin := UInt16.le_iff_toNat_le.mp stops.within
      rw [length_ports, length_ports]
      omega

/-- There is one first port that is not in use. -/
theorem StopsAt.eq {first last c d : UInt16} (hc : StopsAt bind first last c)
    (hd : StopsAt bind first last d) : c = d := by
  refine UInt16.le_antisymm (UInt16.not_lt.mp fun hlt => ?_) (UInt16.not_lt.mp fun hlt => ?_)
  · exact hd.stops (hc.before d hd.above hlt)
  · exact hc.stops (hd.before c hc.above hlt)

/-- What is bound is the first port that is not in use. -/
theorem stopsAt_of_bindFrom {port : UInt16} {attempts : Nat} {socket : σ} (hport : port ≠ 0)
    (h : bindFrom bind host port attempts = .ok socket) :
    ∃ c, StopsAt bind port (lastPort port attempts) c ∧ bind c = .ok socket := by
  have hends := traced_ends bind host hport attempts
  rw [traced_result, h] at hends
  generalize hresult : Except.ok socket = result at hends
  generalize (traced bind host port attempts).2 = tried at hends
  cases hends with
  | exhausted => exact absurd hresult (by simp)
  | @stopped c stops => exact ⟨c, stops, of_mapError_eq_ok hresult.symm⟩

/-- **A search tries ports upwards, to the first that is not in use.**  The ports
that may be tried go from the one that is asked for up to `last`: as many as there
are attempts, at least one, and none above 65535.  If all of them are in use, the
search tries them all and fails, naming the first and the last; otherwise it goes
to the first that is not in use, and binds it or fails with its error.  What it
tries are numbers in a row, no more than there are attempts.  Where any port is
asked for, it tries once.  Noting the ports down makes no difference. -/
theorem search_tries_upwards (bind : UInt16 → Except BindError σ) (host : String)
    (port : UInt16) (attempts : Nat) :
    ∃ result tried last, traced bind host port attempts = (result, tried)
      ∧ bindFrom bind host port attempts = result
      ∧ last.toNat = min (port.toNat + max attempts 1 - 1) 65535
      ∧ (port ≠ 0 → Ends bind host port port last result tried)
      ∧ (port = 0 → result = (bind 0).mapError (.bind host 0) ∧ tried = [0])
      ∧ tried.map UInt16.toNat = List.range' port.toNat tried.length
      ∧ tried.length ≤ max attempts 1 := by
  refine ⟨(traced bind host port attempts).1, (traced bind host port attempts).2,
    lastPort port attempts, rfl, (traced_result bind host port attempts).symm,
    toNat_lastPort port attempts, ?_⟩
  -- Any port means one attempt; a given one is where the search begins.
  by_cases hport : port = 0
  · rw [hport, traced_zero]
    exact ⟨fun hne => absurd rfl hne, fun _ => ⟨rfl, rfl⟩, rfl, Nat.le_max_right _ _⟩
  · have hends := traced_ends bind host hport attempts
    refine ⟨fun _ => hends, fun hzero => absurd hzero hport, hends.toNat_tried, ?_⟩
    exact Nat.le_trans hends.length_tried_le (length_ports_lastPort port attempts)

/-- A machine with the last port but one in use, and the last not for it. -/
def lastRefused (port : UInt16) : Except BindError Unit :=
  if port = 65534 then .error .inUse else .error .notAvailable

/-- With attempts left, the search ends at the last port there is. -/
theorem search_tries_last_port :
    (65534 : UInt16) ≠ 0
      ∧ traced lastRefused "localhost" 65534 5
        = (.error (.bind "localhost" 65535 .notAvailable), [65534, 65535]) := by
  refine ⟨by decide, ?_⟩
  obtain ⟨result, tried, last, htraced, -, hlast, hends, -⟩ :=
    search_tries_upwards lastRefused "localhost" 65534 5
  obtain rfl : last = 65535 := UInt16.toNat_inj.mp (hlast.trans (by decide))
  rw [htraced]
  cases hends (by decide) with
  | exhausted all => exact absurd (all 65535 (by decide) (by decide)) (by decide)
  | @stopped c stops =>
      -- The first of the two ports is in use, so the search stops at the other.
      have hne : c ≠ 65534 := fun h => stops.stops (by rw [h]; rfl)
      have habove := UInt16.le_iff_toNat_le.mp stops.above
      have hwithin := UInt16.le_iff_toNat_le.mp stops.within
      have hc : c.toNat ≠ 65534 := fun h => hne (UInt16.toNat_inj.mp h)
      obtain rfl : c = 65535 := UInt16.toNat_inj.mp (by
        show c.toNat = 65535
        change 65534 ≤ c.toNat at habove
        change c.toNat ≤ 65535 at hwithin
        omega)
      decide

end Switchyard.Listener
