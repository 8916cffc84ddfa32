/-
  Switchyard.Proofs.Json.Yields
  ─────────────────────────────
  What a reader can make of any text.  `Yields reader P` says that whatever it
  makes satisfies `P`; it says nothing of the texts that it refuses.

  Main statements:

      Yields.bind       — one reader after the other
      natBelow_yields   — a number is below the bound that it was read with
      members_yields    — what every member keeps holds of an object
-/
import Switchyard.Json.Typed
import Switchyard.Proofs.Fallible

namespace Switchyard.Json.Reader

variable {α β σ : Type}

/-! ## §1. Readers in a row. -/

/-- Whatever the reader makes of a text satisfies `P`. -/
def Yields (reader : Reader α) (P : α → Prop) : Prop :=
  ∀ bs a rest, reader bs = .ok (a, rest) → P a

theorem Yields.of_forall {reader : Reader α} {P : α → Prop} (h : ∀ a, P a) : reader.Yields P :=
  fun _ a _ _ => h a

theorem Yields.bind {reader : Reader α} {f : α → Reader β} {P : α → Prop} {Q : β → Prop}
    (h : reader.Yields P) (hf : ∀ a, P a → (f a).Yields Q) : (reader >>= f).Yields Q := by
  intro bs b rest hb
  have hb' : (reader bs >>= fun p => f p.1 p.2) = .ok (b, rest) := hb
  obtain ⟨p, hp, hb⟩ := of_bind_eq_ok hb'
  exact hf p.1 (h bs p.1 p.2 hp) p.2 b rest hb

/-- What is read before does not matter. -/
theorem Yields.after {reader : Reader α} {f : α → Reader β} {Q : β → Prop}
    (hf : ∀ a, (f a).Yields Q) : (reader >>= f).Yields Q :=
  (Yields.of_forall (P := fun _ => True) fun _ => trivial).bind fun a _ => hf a

theorem Yields.pure {a : α} {P : α → Prop} (h : P a) : (Pure.pure a : Reader α).Yields P := by
  intro bs b rest hb
  obtain ⟨rfl, -⟩ := Prod.mk.inj (Except.ok.inj hb)
  exact h

theorem Yields.fail {fault : ReadFault} {P : α → Prop} : (fail fault : Reader α).Yields P := by
  intro bs a rest h
  exact absurd h (by simp [Reader.fail])

/-! ## §2. Values. -/

/-- A value of another type yields nothing. -/
theorem misfit_yields {P : α → Prop} : (misfit : Reader α).Yields P := by
  unfold misfit
  refine .after fun c => ?_
  split
  · exact .after fun _ => .after fun _ => .fail
  · exact .after fun _ => .fail
  · exact .after fun _ => .fail
  · exact .after fun _ => .fail
  · split
    · exact .after fun _ => .fail
    · exact .fail

/-- A number is below the bound that it was read with. -/
theorem natBelow_yields (bound : Nat) : (natBelow bound).Yields (· < bound) := by
  unfold natBelow
  refine .after fun c => ?_
  split
  · refine .after fun n? => ?_
    split
    · next n =>
      split
      · next h =>
        refine .pure ?_
        show n.toNat < bound
        omega
      · exact .fail
    · exact .fail
  · exact misfit_yields

theorem moreItems_yields {item : Reader α} {P : α → Prop} (h : item.Yields P) (fuel : Nat) :
    (moreItems item fuel).Yields fun as => ∀ a ∈ as, P a := by
  induction fuel with
  | zero => exact .fail
  | succ fuel ih =>
      rw [moreItems]
      refine .after fun c => ?_
      split
      · exact .pure (by simp)
      · refine h.bind fun a ha => ih.bind fun as has => .pure ?_
        exact List.forall_mem_cons.mpr ⟨ha, has⟩
      · exact .fail

theorem array_yields {item : Reader α} {P : α → Prop} (h : item.Yields P) :
    (array item).Yields fun as => ∀ a ∈ as, P a := by
  unfold array
  refine .after fun c => ?_
  split
  · refine .after fun _ => .after fun c => ?_
    split
    · exact .after fun _ => .pure (by simp)
    · refine .after fun bs => h.bind fun a ha => (moreItems_yields h _).bind fun as has => .pure ?_
      exact List.forall_mem_cons.mpr ⟨ha, has⟩
  · exact misfit_yields

/-! ## §3. Objects and whole texts. -/

theorem membersFrom_yields {member : String → σ → Option (Reader σ)} {P : σ → Prop}
    (h : ∀ key known value, P known → member key known = some value → value.Yields P)
    (fuel : Nat) {known : σ} (hknown : P known) : (membersFrom member fuel known).Yields P := by
  induction fuel generalizing known with
  | zero => exact .fail
  | succ fuel ih =>
      rw [membersFrom]
      refine .after fun _ => .after fun key => ?_
      split
      · exact .fail
      · next value hvalue =>
        refine .after fun _ => (h key known value hknown hvalue).bind fun known' hknown' => ?_
        refine .after fun c => ?_
        split
        · exact .pure hknown'
        · exact ih hknown'
        · exact .fail

/-- **What every member keeps holds of an object.** -/
theorem members_yields {member : String → σ → Option (Reader σ)} {P : σ → Prop}
    (h : ∀ key known value, P known → member key known = some value → value.Yields P)
    {start : σ} (hstart : P start) : (members member start).Yields P := by
  unfold members
  refine .after fun c => ?_
  split
  · exact .after fun _ => .pure hstart
  · exact .after fun bs => membersFrom_yields h _ hstart

theorem need_yields {a? : Option α} {P : α → Prop} (h : ∀ a, a? = some a → P a) :
    (need a?).Yields P := by
  cases a? with
  | none => exact .fail
  | some a => exact .pure (h a rfl)

theorem run_yields {reader : Reader α} {P : α → Prop} (h : reader.Yields P) {content : Bytes}
    {a : α} (hrun : reader.run content = .ok a) : P a := by
  unfold run at hrun
  split at hrun
  · next a' rest hread =>
    split at hrun
    · obtain rfl := Except.ok.inj hrun
      exact h content a' rest hread
    · simp at hrun
  · simp at hrun

end Switchyard.Json.Reader
