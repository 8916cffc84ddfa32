/-
  Switchyard.Proofs.Site.Builtin
  ──────────────────────────────
  Registering the routes that a server adds to those of its application: when
  all of them can be added, and what the table is then.

  Main statements:

      registerAll_of_new, new_of_registerAll_ok
      registerAll_builtinRoutes — they stand behind those of the application
      builtinRoutes_ok_iff      — if their names are new
-/
import Switchyard.Proofs.Fallible
import Switchyard.Proofs.Route.Router
import Switchyard.Site.Builtin

namespace Switchyard

variable {α : Type}

namespace RouteDraft

variable {d : RouteDraft α} {ds : List (RouteDraft α)} {b : Binding (Endpoint α)}
  {bs : List (Binding (Endpoint α))} {t t' : RouteTable (Endpoint α)}

/-! ## §1. One route. -/

theorem toBinding_of_compile {p : Pattern} (h : Pattern.compile d.pattern = .ok p) :
    ∃ b, d.toBinding = .ok b := by
  unfold toBinding
  rw [h]
  exact ⟨_, rfl⟩

/-- A route keeps its name, whatever else is said of it. -/
theorem name_of_toBinding (h : d.toBinding = .ok b) : b.name = d.name := by
  unfold toBinding at h
  obtain ⟨p, -, h⟩ := of_bind_eq_ok h
  obtain rfl := Except.ok.inj h
  cases d.method? <;> rfl

/-- So it does its endpoint, and whether its answers may be kept. -/
theorem endpoint_of_toBinding (h : d.toBinding = .ok b) :
    b.handler = d.endpoint ∧ b.cacheable = d.cacheable := by
  unfold toBinding at h
  obtain ⟨p, -, h⟩ := of_bind_eq_ok h
  obtain rfl := Except.ok.inj h
  cases d.method? <;> exact ⟨rfl, rfl⟩

/-- Adding a route first, and then the others. -/
theorem registerAll_cons (t : RouteTable (Endpoint α)) (d : RouteDraft α)
    (ds : List (RouteDraft α)) :
    registerAll t (d :: ds) = match d.toBinding >>= t.register with
      | .ok t' => registerAll t' ds
      | .error e => (.error e, t) := by
  exact registerAll.eq_def t (d :: ds)

/-- The others follow if it can be added. -/
theorem registerAll_cons_ok (hb : d.toBinding = .ok b) (ht : t.register b = .ok t') :
    registerAll t (d :: ds) = registerAll t' ds := by
  have hone : (d.toBinding >>= t.register) = .ok t' := by
    rw [hb]
    exact ht
  rw [registerAll_cons, hone]

theorem of_registerAll_cons_ok (h : (registerAll t (d :: ds)).1 = .ok ()) :
    ∃ b t', d.toBinding = .ok b ∧ t.register b = .ok t' := by
  rw [registerAll_cons] at h
  split at h
  · next t' hone =>
    obtain ⟨b, hb, ht⟩ := of_bind_eq_ok hone
    exact ⟨b, t', hb, ht⟩
  · simp at h

/-! ## §2. Many routes. -/

theorem mapM_toBinding_of_compile (h : ∀ d ∈ ds, ∃ p, Pattern.compile d.pattern = .ok p) :
    ∃ bs, ds.mapM toBinding = .ok bs := by
  induction ds with
  | nil => exact ⟨[], rfl⟩
  | cons d ds ih =>
      obtain ⟨p, hp⟩ := h d List.mem_cons_self
      obtain ⟨b, hb⟩ := toBinding_of_compile hp
      obtain ⟨bs, hbs⟩ := ih fun d' hd' => h d' (List.mem_cons_of_mem _ hd')
      refine ⟨b :: bs, ?_⟩
      rw [List.mapM_cons, hb, hbs]
      rfl

/-- What a table has after routes were added, it had before, or it is one of them. -/
theorem of_mem_registerAll (h : b ∈ (registerAll t ds).2.bindings) :
    b ∈ t.bindings ∨ ∃ d ∈ ds, d.toBinding = .ok b := by
  induction ds generalizing t with
  | nil => exact .inl h
  | cons d ds ih =>
      rw [registerAll_cons] at h
      -- A route that is refused ends it, with the table as it was.
      cases hone : d.toBinding >>= t.register with
      | error e =>
          rw [hone] at h
          exact .inl h
      | ok t' =>
          rw [hone] at h
          obtain ⟨b', hb', ht'⟩ := of_bind_eq_ok hone
          obtain ⟨-, rfl⟩ := RouteTable.register_ok_iff.mp ht'
          rcases ih h with hmem | ⟨d', hd', hmade⟩
          · rcases List.mem_append.mp hmem with hmem | hmem
            · exact .inl hmem
            · obtain rfl := List.mem_singleton.mp hmem
              exact .inr ⟨d, List.mem_cons_self, hb'⟩
          · exact .inr ⟨d', List.mem_cons_of_mem _ hd', hmade⟩

/-- Routes with new names, no two of them alike, are all added. -/
theorem registerAll_of_new (hbs : ds.mapM toBinding = .ok bs)
    (hnew : ∀ d ∈ ds, d.name ∉ t.names) (hnodup : (ds.map RouteDraft.name).Nodup) :
    registerAll t ds = (.ok (), ⟨t.bindings ++ bs⟩) := by
  induction ds generalizing t bs with
  | nil =>
      obtain rfl : [] = bs := Except.ok.inj hbs
      show (_, t) = _
      rw [List.append_nil]
  | cons d ds ih =>
      rw [List.mapM_cons] at hbs
      obtain ⟨b, hb, hbs⟩ := of_bind_eq_ok hbs
      obtain ⟨bs', hbs', hbs⟩ := of_bind_eq_ok hbs
      obtain rfl : b :: bs' = bs := Except.ok.inj hbs
      have hname := name_of_toBinding hb
      have hd : b.name ∉ t.names := hname ▸ hnew d List.mem_cons_self
      rw [registerAll_cons_ok hb (RouteTable.register_of_not_mem hd)]
      rw [List.map_cons, List.nodup_cons] at hnodup
      -- The name that the table now has besides is none of those to come.
      have hnew' : ∀ d' ∈ ds, d'.name ∉ (⟨t.bindings ++ [b]⟩ : RouteTable (Endpoint α)).names := by
        intro d' hd' hmem
        simp only [RouteTable.names, List.map_append, List.mem_append, List.map_singleton,
          List.mem_singleton] at hmem
        rcases hmem with hmem | hmem
        · exact hnew d' (List.mem_cons_of_mem _ hd') hmem
        · refine hnodup.1 (List.mem_map.mpr ⟨d', hd', ?_⟩)
          rw [hmem, hname]
      rw [ih hbs' hnew' hnodup.2, List.append_assoc]
      rfl

/-- Routes that are all added had new names. -/
theorem new_of_registerAll_ok (h : (registerAll t ds).1 = .ok ()) :
    ∀ d ∈ ds, d.name ∉ t.names := by
  induction ds generalizing t with
  | nil => simp
  | cons d ds ih =>
      obtain ⟨b, t', hb, ht⟩ := of_registerAll_cons_ok h
      rw [registerAll_cons_ok hb ht] at h
      obtain ⟨hnew, rfl⟩ := RouteTable.register_ok_iff.mp ht
      have hname := name_of_toBinding hb
      intro d' hd' hmem
      rcases List.mem_cons.mp hd' with rfl | hd'
      · exact hnew (hname ▸ hmem)
      · refine ih h d' hd' ?_
        unfold RouteTable.names at hmem ⊢
        rw [List.map_append]
        exact List.mem_append_left _ hmem

end RouteDraft

/-! ## §3. The routes of a configuration. -/

namespace Config

open RouteDraft

/-- The names of all routes that a server may add. -/
def builtinNames : List String :=
  ["debug-string", "debug-json", "admin-status", "admin-routes", "admin-cache",
    "admin-cache-clear", "static-index", "static-files"]

/-- The patterns of all routes that a server may add. -/
def builtinPatterns : List String :=
  ["debug/string/[value]", "debug/json/[value]", "admin/status", "admin/routes", "admin/cache",
    "admin/cache/clear", "/", "<file>[extension]"]

/-- A configuration asks for some of these routes, in the same order. -/
theorem builtinRoutes_sublist (c : Config) :
    ((c.builtinRoutes : List (RouteDraft α)).map RouteDraft.name).Sublist builtinNames
      ∧ ((c.builtinRoutes : List (RouteDraft α)).map RouteDraft.pattern).Sublist
        builtinPatterns := by
  have hif (p : Bool) (ds : List (RouteDraft α)) : (if p then ds else []).Sublist ds := by
    cases p
    · exact List.nil_sublist ds
    · exact List.Sublist.refl ds
  have hall : (c.builtinRoutes : List (RouteDraft α)).Sublist
      (debugRoutes ++ adminRoutes c.admin.apiKey
        ++ fileRoutes (StaticFiles.ofConfig c.staticFiles)) :=
    ((hif _ _).append (hif _ _)).append (hif _ _)
  exact ⟨hall.map RouteDraft.name, hall.map RouteDraft.pattern⟩

theorem compile_builtinPatterns :
    ∀ text ∈ builtinPatterns, (Pattern.compile text).toOption.isSome = true := by
  decide +kernel

theorem mapM_builtinRoutes (c : Config) :
    ∃ bs, (c.builtinRoutes : List (RouteDraft α)).mapM toBinding = .ok bs := by
  refine mapM_toBinding_of_compile ?_
  intro d hd
  have hmem := (builtinRoutes_sublist c).2.subset (List.mem_map.mpr ⟨d, hd, rfl⟩)
  have hsome := compile_builtinPatterns _ hmem
  cases hcompile : Pattern.compile d.pattern with
  | ok p => exact ⟨p, rfl⟩
  | error e =>
      rw [hcompile] at hsome
      exact absurd hsome (by simp [Except.toOption])

/-- Where the names are new, the routes of a configuration stand behind those of
the application. -/
theorem registerAll_builtinRoutes {c : Config} {t : RouteTable (Endpoint α)}
    (hnew : ∀ d ∈ (c.builtinRoutes : List (RouteDraft α)), d.name ∉ t.names) :
    ∃ bs, c.builtinRoutes.mapM toBinding = .ok bs
      ∧ registerAll t c.builtinRoutes = (.ok (), ⟨t.bindings ++ bs⟩) := by
  obtain ⟨bs, hbs⟩ := mapM_builtinRoutes c
  have hnodup : ((c.builtinRoutes : List (RouteDraft α)).map RouteDraft.name).Nodup :=
    (builtinRoutes_sublist c).1.nodup (by decide)
  exact ⟨bs, hbs, registerAll_of_new hbs hnew hnodup⟩

/-- **All routes that a configuration asks for can be added** exactly if the
application has none of their names. -/
theorem builtinRoutes_ok_iff (c : Config) (t : RouteTable (Endpoint α)) :
    (registerAll t c.builtinRoutes).1 = .ok ()
      ↔ ∀ d ∈ (c.builtinRoutes : List (RouteDraft α)), d.name ∉ t.names := by
  refine ⟨new_of_registerAll_ok, ?_⟩
  intro hnew
  obtain ⟨bs, -, hall⟩ := registerAll_builtinRoutes hnew
  rw [hall]

end Config

end Switchyard
