/-
  Switchyard.Proofs.Route.Router
  ──────────────────────────────
  A router over whole runs: bindings are registered, the table is rebuilt,
  snapshots of it are taken and requests are resolved, in any order.  A
  snapshot is the table of its time; the router keeps those that were taken.

      Call, call   — one call of a router, and what it answers
      Router.run   — many of them

  Main statements:

      ofBindings_eq_foldlM — rebuilding is registering one by one on nothing
      kept_prefix_run      — no call touches a snapshot that was taken
      run_table_and_snapshots
-/
import Switchyard.Proofs.Route.Registration

namespace Switchyard

variable {η : Type}

/-! ## §1. Rebuilding and registering. -/

namespace RouteTable

theorem register_of_mem {t : RouteTable η} {b : Binding η} (h : b.name ∈ t.names) :
    t.register b = .error (.duplicateName b.name) := if_pos h

theorem register_of_not_mem {t : RouteTable η} {b : Binding η} (h : b.name ∉ t.names) :
    t.register b = .ok ⟨t.bindings ++ [b]⟩ := if_neg h

/-- Registering some bindings one by one stops at the first name that is in
the table, or comes a second time. -/
theorem foldlM_register (bs : List (Binding η)) {t : RouteTable η} {seen : List String}
    (hseen : ∀ name, name ∈ seen ↔ name ∈ t.names) :
    bs.foldlM register t
      = match firstRepeat? seen (bs.map Binding.name) with
        | some name => .error (.duplicateName name)
        | none => .ok ⟨t.bindings ++ bs⟩ := by
  induction bs generalizing t seen with
  | nil =>
      show Except.ok t = Except.ok ⟨t.bindings ++ []⟩
      rw [List.append_nil]
  | cons b bs ih =>
      rw [List.foldlM_cons, List.map_cons, firstRepeat?]
      by_cases hb : b.name ∈ t.names
      · rw [register_of_mem hb, if_pos ((hseen _).mpr hb)]
        rfl
      · rw [register_of_not_mem hb, if_neg fun h => hb ((hseen _).mp h)]
        -- The name is now seen, and it is the one that the table has in addition.
        have hseen' : ∀ name, name ∈ b.name :: seen
            ↔ name ∈ (⟨t.bindings ++ [b]⟩ : RouteTable η).names := by
          intro name
          rw [List.mem_cons, hseen name]
          simp only [names, List.map_append, List.mem_append, List.map_singleton,
            List.mem_singleton]
          exact or_comm
        show bs.foldlM register (⟨t.bindings ++ [b]⟩ : RouteTable η) = _
        rw [ih hseen', List.append_assoc]
        rfl

/-- **Rebuilding is registering one by one on nothing**: the same table in the
same order, or the same name that is taken. -/
theorem ofBindings_eq_foldlM (bs : List (Binding η)) :
    ofBindings bs = bs.foldlM register empty := by
  have hseen : ∀ name, name ∈ ([] : List String) ↔ name ∈ (empty : RouteTable η).names :=
    fun _ => Iff.rfl
  rw [foldlM_register bs hseen]
  rfl

/-- Rebuilding installs the bindings that it was given, or names one whose name
is taken by another one. -/
theorem ofBindings_cases (bs : List (Binding η)) :
    ofBindings bs = .ok ⟨bs⟩ ∨ ∃ name, ofBindings bs = .error (.duplicateName name) := by
  unfold ofBindings
  cases firstRepeat? [] (bs.map Binding.name) with
  | none => exact Or.inl rfl
  | some name => exact Or.inr ⟨name, rfl⟩

end RouteTable

/-! ## §2. Routers. -/

/-- A router: its table, and the snapshots that were taken of it, in order. -/
structure Router (η : Type) where
  table : RouteTable η
  kept : List (RouteTable η)

namespace Router

/-- A router without bindings, of which no snapshot was taken. -/
def empty : Router η := ⟨.empty, []⟩

/-- What a router is asked. -/
inductive Call (η : Type) where
  | register (b : Binding η)
  | rebuild (bs : List (Binding η))
  | snapshot
  | resolve (method : Method) (path : String)

/-- What a router answers. -/
inductive Answer (η : Type) where
  | registered (b : Binding η)
  | rebuilt
  | refused (e : RouteError)
  | snapshot (t : RouteTable η)
  | resolved (found? : Option (Binding η × Params))

/-- The answer to a call, and the router after it. -/
def call (r : Router η) : Call η → Answer η × Router η
  | .register b =>
      match r.table.register b with
      | .ok t => (.registered b, { r with table := t })
      | .error e => (.refused e, r)
  | .rebuild bs =>
      match RouteTable.ofBindings bs with
      | .ok t => (.rebuilt, { r with table := t })
      | .error e => (.refused e, r)
  | .snapshot => (.snapshot r.table, { r with kept := r.kept ++ [r.table] })
  | .resolve method path => (.resolved (r.table.resolve? method path), r)

/-- The router after some calls. -/
def run (r : Router η) (calls : List (Call η)) : Router η :=
  calls.foldl (fun r c => (r.call c).2) r

/-- What the snapshot taken as number `i` resolves a request to. -/
def resolveKept? (r : Router η) (i : Nat) (method : Method) (path : String) :
    Option (Option (Binding η × Params)) :=
  r.kept[i]?.map fun t => t.resolve? method path

/-! ## §3. One call. -/

/-- **All that registering can do.** -/
theorem call_register (r : Router η) (b : Binding η) :
    (b.name ∉ r.table.names
        ∧ r.call (.register b) = (.registered b, { r with table := ⟨r.table.bindings ++ [b]⟩ }))
      ∨ (b.name ∈ r.table.names
        ∧ r.call (.register b) = (.refused (.duplicateName b.name), r)) := by
  by_cases hb : b.name ∈ r.table.names
  · right
    exact ⟨hb, by simp only [call, RouteTable.register_of_mem hb]⟩
  · left
    exact ⟨hb, by simp only [call, RouteTable.register_of_not_mem hb]⟩

/-- **All that rebuilding can do**, told by what registering one by one does. -/
theorem call_rebuild (r : Router η) (bs : List (Binding η)) :
    (bs.foldlM RouteTable.register .empty = .ok ⟨bs⟩
        ∧ r.call (.rebuild bs) = (.rebuilt, { r with table := ⟨bs⟩ }))
      ∨ ∃ name, bs.foldlM RouteTable.register .empty = .error (.duplicateName name)
        ∧ r.call (.rebuild bs) = (.refused (.duplicateName name), r) := by
  rw [← RouteTable.ofBindings_eq_foldlM]
  rcases RouteTable.ofBindings_cases bs with h | ⟨name, h⟩
  · exact Or.inl ⟨h, by simp only [call, h]⟩
  · exact Or.inr ⟨name, h, by simp only [call, h]⟩

/-- A call leaves a table that was made by registration such a table. -/
theorem call_registered {r : Router η} (h : r.table.Registered) (c : Call η) :
    (r.call c).2.table.Registered := by
  cases c with
  | register b =>
      rcases call_register r b with ⟨hb, hc⟩ | ⟨_, hc⟩
      · rw [hc]
        exact h.register (RouteTable.register_of_not_mem hb)
      · rw [hc]
        exact h
  | rebuild bs =>
      rcases call_rebuild r bs with ⟨hbs, hc⟩ | ⟨_, _, hc⟩
      · rw [hc]
        rw [← RouteTable.ofBindings_eq_foldlM] at hbs
        exact .ofBindings hbs
      · rw [hc]
        exact h
  | snapshot => exact h
  | resolve method path => exact h

/-- A call leaves the snapshots as they are; at most it takes one more. -/
theorem kept_prefix_call (r : Router η) (c : Call η) : r.kept <+: (r.call c).2.kept := by
  cases c with
  | register b =>
      rcases call_register r b with ⟨_, hc⟩ | ⟨_, hc⟩
      · exact ⟨[], by rw [hc, List.append_nil]⟩
      · exact ⟨[], by rw [hc, List.append_nil]⟩
  | rebuild bs =>
      rcases call_rebuild r bs with ⟨_, hc⟩ | ⟨_, _, hc⟩
      · exact ⟨[], by rw [hc, List.append_nil]⟩
      · exact ⟨[], by rw [hc, List.append_nil]⟩
  | snapshot => exact List.prefix_append _ _
  | resolve method path => exact List.prefix_rfl

/-! ## §4. Whole runs. -/

theorem run_registered {r : Router η} (h : r.table.Registered) (calls : List (Call η)) :
    (r.run calls).table.Registered := by
  induction calls generalizing r with
  | nil => exact h
  | cons c calls ih => exact ih (call_registered h c)

/-- **No call touches a snapshot that was taken.** -/
theorem kept_prefix_run (r : Router η) (calls : List (Call η)) :
    r.kept <+: (r.run calls).kept := by
  induction calls generalizing r with
  | nil => exact List.prefix_rfl
  | cons c calls ih => exact (kept_prefix_call r c).trans (ih _)

/-- What a snapshot resolves stays the same while the router goes on. -/
theorem resolveKept?_run {r : Router η} {i : Nat} (hi : i < r.kept.length)
    (calls : List (Call η)) (method : Method) (path : String) :
    (r.run calls).resolveKept? i method path = r.resolveKept? i method path := by
  obtain ⟨more, hmore⟩ := kept_prefix_run r calls
  rw [resolveKept?, resolveKept?, ← hmore, List.getElem?_append_left hi]

/-- **A router over whole runs.**  After any calls no name stands twice in the
table.  A binding is appended behind the others, exactly if its name is not
taken, and refused for its name otherwise.  Rebuilding does what registering
one by one on nothing does, with the same table or the same name refused.  What
is refused leaves the router as it was.  A snapshot that is taken then resolves
every request, whatever calls come after it, as the router did. -/
theorem run_table_and_snapshots (before : List (Call η)) :
    let r := empty.run before
    r.table.names.Nodup
      ∧ (∀ b, if b.name ∈ r.table.names
          then r.call (.register b) = (.refused (.duplicateName b.name), r)
          else r.call (.register b)
            = (.registered b, { r with table := ⟨r.table.bindings ++ [b]⟩ }))
      ∧ (∀ bs : List (Binding η), match bs.foldlM RouteTable.register .empty with
          | .ok t => t.bindings = bs ∧ r.call (.rebuild bs) = (.rebuilt, { r with table := t })
          | .error e => (∃ name, e = .duplicateName name)
              ∧ r.call (.rebuild bs) = (.refused e, r))
      ∧ (∀ (after : List (Call η)) (method : Method) (path : String),
          ((r.call .snapshot).2.run after).resolveKept? r.kept.length method path
            = some (r.table.resolve? method path)) := by
  intro r
  refine ⟨(run_registered .empty before).nodup, ?_, ?_, ?_⟩
  · intro b
    rcases call_register r b with ⟨hb, hc⟩ | ⟨hb, hc⟩
    · rw [if_neg hb]
      exact hc
    · rw [if_pos hb]
      exact hc
  · intro bs
    rcases call_rebuild r bs with ⟨hbs, hc⟩ | ⟨name, hbs, hc⟩
    · rw [hbs]
      exact ⟨rfl, hc⟩
    · rw [hbs]
      exact ⟨⟨name, rfl⟩, hc⟩
  · intro after method path
    -- The snapshot is the last that is kept, and stays at its place.
    have hlast : (r.call .snapshot).2.kept = r.kept ++ [r.table] := rfl
    have hi : r.kept.length < (r.call .snapshot).2.kept.length := by
      rw [hlast, List.length_append, List.length_singleton]
      exact Nat.lt_succ_self _
    rw [resolveKept?_run hi, resolveKept?, hlast, List.getElem?_concat_length]
    rfl

end Router

end Switchyard
