/-
  Switchyard.Proofs.Route.Precedence
  ──────────────────────────────────
  Which binding answers.  A request goes to the first binding, in the order of
  registration, whose method filter and whose pattern accept it.  So a binding
  that is registered later takes no request from those before it, and a `HEAD`
  is answered where the `GET` is, unless a binding for `HEAD` only stands before
  that.

      AnswersAt — a binding accepts the request, and none before it does

  Main statements:

      resolve?_eq_some_iff — a request goes to the binding that answers it
      resolve?_eq_none_iff — or to none, if none accepts it
      AnswersAt.head       — from `GET` to `HEAD`
      first_binding_answers
-/
import Switchyard.Proofs.Route.Registration

namespace Switchyard

variable {η : Type}

/-! ## §1. Filters. -/

namespace MethodFilter

/-- `HEAD` is allowed wherever `GET` is. -/
theorem allows_head_of_get {f : MethodFilter} (h : f.allows .get = true) :
    f.allows .head = true := by
  cases f with
  | any => rfl
  | only method =>
      have hget : method = .get := by
        simp only [allows, decide_eq_true_eq] at h
        rcases h with h | ⟨h, _⟩
        · exact h
        · exact h
      simp [allows, hget]

/-- Only a filter for `HEAD` alone allows it where it does not allow `GET`. -/
theorem eq_only_head {f : MethodFilter} (hhead : f.allows .head = true)
    (hget : ¬ f.allows .get = true) : f = .only .head := by
  cases f with
  | any => exact absurd rfl hget
  | only method =>
      simp only [allows, decide_eq_true_eq] at hhead
      rcases hhead with rfl | ⟨rfl, _⟩
      · rfl
      · exact absurd (by decide) hget

end MethodFilter

namespace RouteTable

theorem accepts?_eq_some_iff {b : Binding η} {method : Method} {path : String}
    {params : Params} :
    accepts? b method path = some params
      ↔ b.methods.allows method = true ∧ b.pattern.match? path = some params := by
  unfold accepts?
  by_cases h : b.methods.allows method = true
  · rw [if_pos h]
    exact (and_iff_right h).symm
  · rw [if_neg h]
    simp [h]

theorem accepts?_eq_none_iff {b : Binding η} {method : Method} {path : String} :
    accepts? b method path = none
      ↔ (b.methods.allows method = true → b.pattern.match? path = none) := by
  unfold accepts?
  by_cases h : b.methods.allows method = true
  · rw [if_pos h]
    exact (imp_iff_right h).symm
  · rw [if_neg h]
    simp [h]

/-! ## §2. The first binding that accepts. -/

/-- The binding at place `i` answers the request: its filter allows the method,
its pattern matches the path with these captures, and no binding before it does
both. -/
structure AnswersAt (t : RouteTable η) (method : Method) (path : String) (i : Nat)
    (b : Binding η) (params : Params) : Prop where
  stands : t.bindings[i]? = some b
  allows : b.methods.allows method = true
  captures : b.pattern.match? path = some params
  first : ∀ j b', j < i → t.bindings[j]? = some b' → b'.methods.allows method = true →
    b'.pattern.match? path = none

theorem resolve?_cons (b : Binding η) (bs : List (Binding η)) (method : Method)
    (path : String) :
    (⟨b :: bs⟩ : RouteTable η).resolve? method path
      = ((accepts? b method path).map (b, ·)).or
        ((⟨bs⟩ : RouteTable η).resolve? method path) := by
  unfold resolve?
  rw [List.findSome?_cons]
  cases accepts? b method path <;> rfl

/-- Behind one more binding, that one answers or those after it do, if it does
not accept the request. -/
theorem answersAt_cons (c : Binding η) (bs : List (Binding η)) {method : Method} {path : String}
    {b : Binding η} {params : Params} :
    (∃ i, (⟨c :: bs⟩ : RouteTable η).AnswersAt method path i b params)
      ↔ (accepts? c method path = some params ∧ c = b)
        ∨ (accepts? c method path = none
          ∧ ∃ i, (⟨bs⟩ : RouteTable η).AnswersAt method path i b params) := by
  -- What answers behind `c` stands one place further back than in `bs`.
  constructor
  · rintro ⟨i, h⟩
    cases i with
    | zero =>
        obtain rfl : c = b := Option.some.inj h.stands
        exact .inl ⟨accepts?_eq_some_iff.mpr ⟨h.allows, h.captures⟩, rfl⟩
    | succ i =>
        refine .inr ⟨accepts?_eq_none_iff.mpr (h.first 0 c (Nat.succ_pos i) rfl), i, ?_⟩
        exact ⟨h.stands, h.allows, h.captures,
          fun j b' hj hb' => h.first (j + 1) b' (Nat.succ_lt_succ hj) hb'⟩
  · rintro (⟨haccepts, rfl⟩ | ⟨hrefuses, i, h⟩)
    · obtain ⟨hallows, hcaptures⟩ := accepts?_eq_some_iff.mp haccepts
      exact ⟨0, rfl, hallows, hcaptures, fun j _ hj => absurd hj (Nat.not_lt_zero j)⟩
    · refine ⟨i + 1, h.stands, h.allows, h.captures, ?_⟩
      intro j b' hj hb'
      cases j with
      | zero =>
          obtain rfl : c = b' := Option.some.inj hb'
          exact accepts?_eq_none_iff.mp hrefuses
      | succ j => exact h.first j b' (Nat.lt_of_succ_lt_succ hj) hb'

/-- **A request goes to the binding that answers it.** -/
theorem resolve?_eq_some_iff (t : RouteTable η) {method : Method} {path : String}
    {b : Binding η} {params : Params} :
    t.resolve? method path = some (b, params) ↔ ∃ i, t.AnswersAt method path i b params := by
  obtain ⟨bs⟩ := t
  -- The search goes along the table, and so does the place of the answer.
  induction bs with
  | nil =>
      constructor
      · intro h
        exact absurd h (by simp [resolve?])
      · rintro ⟨i, h⟩
        exact absurd h.stands (by simp)
  | cons c bs ih =>
      rw [answersAt_cons, ← ih, resolve?_cons]
      cases hc : accepts? c method path with
      | none => simp
      | some params' => simp [and_comm]

/-- **A request goes to no binding exactly if none accepts it.** -/
theorem resolve?_eq_none_iff (t : RouteTable η) {method : Method} {path : String} :
    t.resolve? method path = none
      ↔ ∀ b ∈ t.bindings, b.methods.allows method = true → b.pattern.match? path = none := by
  unfold resolve?
  simp only [List.findSome?_eq_none_iff, Option.map_eq_none_iff, accepts?_eq_none_iff]

/-! ## §3. `GET` and `HEAD`. -/

/-- **Where a `GET` is answered, a `HEAD` is too**, by the same binding or by one
before it that is for `HEAD` only. -/
theorem AnswersAt.head {t : RouteTable η} {path : String} {i : Nat} {b : Binding η}
    {params : Params} (h : t.AnswersAt .get path i b params) :
    ∃ j b' params', t.AnswersAt .head path j b' params' ∧ j ≤ i
      ∧ (j = i ∧ b' = b ∧ params' = params ∨ b'.methods = .only .head) := by
  have hallows : b.methods.allows .head = true := MethodFilter.allows_head_of_get h.allows
  cases hhead : t.resolve? .head path with
  | none =>
      -- The binding that answers the `GET` accepts the `HEAD` as well.
      have hnone := (t.resolve?_eq_none_iff.mp hhead) b (List.mem_of_getElem? h.stands) hallows
      rw [h.captures] at hnone
      exact absurd hnone (by simp)
  | some answer =>
      obtain ⟨b', params'⟩ := answer
      obtain ⟨j, hj⟩ := t.resolve?_eq_some_iff.mp hhead
      have hle : j ≤ i := by
        by_cases hlt : i < j
        · have hnone := hj.first i b hlt h.stands hallows
          rw [h.captures] at hnone
          exact absurd hnone (by simp)
        · omega
      refine ⟨j, b', params', hj, hle, ?_⟩
      rcases Nat.eq_or_lt_of_le hle with rfl | hlt
      · left
        obtain rfl : b' = b := Option.some.inj (hj.stands.symm.trans h.stands)
        exact ⟨rfl, rfl, Option.some.inj (hj.captures.symm.trans h.captures)⟩
      · -- A binding before it matches the path, so it does not allow `GET`.
        right
        refine MethodFilter.eq_only_head hj.allows fun hget => ?_
        have hnone := h.first j b' hlt hj.stands hget
        rw [hj.captures] at hnone
        exact absurd hnone (by simp)

/-- The two methods can lead to different bindings. -/
example :
    let page : Pattern := ⟨"page", [.literal "page"], .closed⟩
    let t : RouteTable Nat := ⟨[(Binding.new page 1).withMethod .head,
      (Binding.new page 2).withMethod .get]⟩
    (t.resolve? .get "/page").map (·.1.handler) = some 2
      ∧ (t.resolve? .head "/page").map (·.1.handler) = some 1 := by
  decide

/-! ## §4. One more binding. -/

/-- What was answered before one more binding is answered as before. -/
theorem resolve?_register_of_some {t t' : RouteTable η} {b : Binding η} {method : Method}
    {path : String} {answer : Binding η × Params} (h : t.register b = .ok t')
    (hanswer : t.resolve? method path = some answer) :
    t'.resolve? method path = some answer := by
  obtain ⟨_, rfl⟩ := register_ok_iff.mp h
  rw [resolve?_append, hanswer, Option.some_or]

/-- Where nothing answered, the new binding does, if it accepts the request. -/
theorem resolve?_register_of_none {t t' : RouteTable η} {b : Binding η} {method : Method}
    {path : String} (h : t.register b = .ok t') (hnone : t.resolve? method path = none)
    (b' : Binding η) (params : Params) :
    t'.resolve? method path = some (b', params)
      ↔ b' = b ∧ b.methods.allows method = true ∧ b.pattern.match? path = some params := by
  obtain ⟨_, rfl⟩ := register_ok_iff.mp h
  rw [resolve?_append, hnone, Option.none_or, ← accepts?_eq_some_iff]
  simp only [Option.map_eq_some_iff, Prod.mk.injEq]
  constructor
  · rintro ⟨captured, haccepts, rfl, rfl⟩
    exact ⟨rfl, haccepts⟩
  · rintro ⟨rfl, haccepts⟩
    exact ⟨params, haccepts, rfl, rfl⟩

/-! ## §5. Resolving. -/

/-- **The first binding that accepts a request answers it**, with what its
pattern captures, and nothing answers exactly if no binding accepts it.  One more
binding changes the answer only where there was none; there it is the answer
exactly if it accepts the request.  A path that is answered for `GET` is answered
for `HEAD`, not further behind, and by the same binding with the same captures
unless the one that answers is for `HEAD` only. -/
theorem first_binding_answers (t : RouteTable η) (method : Method) (path : String) :
    (∀ b params, t.resolve? method path = some (b, params)
        ↔ ∃ i, t.AnswersAt method path i b params)
      ∧ (t.resolve? method path = none
        ↔ ∀ b ∈ t.bindings, b.methods.allows method = true → b.pattern.match? path = none)
      ∧ (∀ b t', t.register b = .ok t' →
        (∀ answer, t.resolve? method path = some answer →
          t'.resolve? method path = some answer)
        ∧ (t.resolve? method path = none →
          ∀ b' params, t'.resolve? method path = some (b', params)
            ↔ b' = b ∧ b.methods.allows method = true ∧ b.pattern.match? path = some params))
      ∧ (∀ i b params, t.AnswersAt .get path i b params →
        ∃ j b' params', t.AnswersAt .head path j b' params' ∧ j ≤ i
          ∧ (j = i ∧ b' = b ∧ params' = params ∨ b'.methods = .only .head)) := by
  refine ⟨fun _ _ => t.resolve?_eq_some_iff, t.resolve?_eq_none_iff, ?_, fun _ _ _ h => h.head⟩
  intro b t' hregister
  exact ⟨fun _ => resolve?_register_of_some hregister, resolve?_register_of_none hregister⟩

end RouteTable

end Switchyard
