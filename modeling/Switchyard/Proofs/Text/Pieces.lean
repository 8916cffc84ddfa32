/-
  Switchyard.Proofs.Text.Pieces
  ─────────────────────────────
  Cutting undoes joining.  A text that was joined from pieces without the
  separator is cut into exactly these pieces, so a list of pieces can be read
  back from its text.

  Main statements:

      not_mem_of_mem_pieces — no piece holds the separator
      pieces_join           — the pieces of a joined text are what was joined
      joinWith_injective    — two lists that join to one text are equal
-/
import Switchyard.Text.Split

namespace Switchyard.Text

/-! ## §1. The pieces of a text. -/

/-- A text without the separator is one piece. -/
theorem pieces_of_not_mem {sep : Char} {cs : List Char} (h : sep ∉ cs) :
    pieces sep cs = [cs] := by
  induction cs with
  | nil => rfl
  | cons c cs ih =>
      have hc : c ≠ sep := fun hc => h (by simp [hc])
      have hcs : sep ∉ cs := fun hm => h (List.mem_cons_of_mem _ hm)
      rw [pieces, if_neg hc, ih hcs]

/-- The first separator ends the first piece. -/
theorem pieces_append_sep {sep : Char} {p : List Char} (h : sep ∉ p) (cs : List Char) :
    pieces sep (p ++ sep :: cs) = p :: pieces sep cs := by
  induction p with
  | nil => simp [pieces]
  | cons c p ih =>
      have hc : c ≠ sep := fun hc => h (by simp [hc])
      have hp : sep ∉ p := fun hm => h (List.mem_cons_of_mem _ hm)
      rw [List.cons_append, pieces, if_neg hc, ih hp]

/-- A text is cut at each of its separators on its own. -/
theorem pieces_append_cons (sep : Char) (a b : List Char) :
    pieces sep (a ++ sep :: b) = pieces sep a ++ pieces sep b := by
  induction a with
  | nil => simp [pieces]
  | cons c a ih =>
      by_cases hc : c = sep
      · rw [List.cons_append, pieces, if_pos hc, ih, pieces, if_pos hc]
        rfl
      · rw [List.cons_append, pieces, if_neg hc, ih, pieces, if_neg hc]
        cases hps : pieces sep a with
        | nil => exact absurd hps (pieces_ne_nil sep a)
        | cons p ps => rfl

theorem not_mem_of_mem_pieces {sep : Char} {cs p : List Char} (h : p ∈ pieces sep cs) :
    sep ∉ p := by
  induction cs generalizing p with
  | nil =>
      have hp : p = [] := by simpa [pieces] using h
      rw [hp]
      exact List.not_mem_nil
  | cons c cs ih =>
      by_cases hc : c = sep
      · rw [pieces, if_pos hc] at h
        rcases List.mem_cons.mp h with rfl | h
        · exact List.not_mem_nil
        · exact ih h
      · rw [pieces, if_neg hc] at h
        cases hps : pieces sep cs with
        | nil => exact absurd hps (pieces_ne_nil sep cs)
        | cons q qs =>
            rw [hps] at h ih
            -- The character goes in front of the first piece; the others stay.
            rcases List.mem_cons.mp h with rfl | h
            · intro hm
              rcases List.mem_cons.mp hm with hm | hm
              · exact hc hm.symm
              · exact ih List.mem_cons_self hm
            · exact ih (List.mem_cons_of_mem _ h)

/-! ## §2. The text of some pieces. -/

theorem joinWith_cons_cons (sep : Char) (p q : List Char) (ps : List (List Char)) :
    joinWith sep (p :: q :: ps) = p ++ sep :: joinWith sep (q :: ps) := by
  simp [joinWith, List.intercalate_cons_cons]

/-- **Cutting undoes joining**, whatever the pieces are. -/
theorem pieces_join {sep : Char} {ps : List (List Char)} (hne : ps ≠ [])
    (h : ∀ p ∈ ps, sep ∉ p) : pieces sep (joinWith sep ps) = ps := by
  induction ps with
  | nil => exact absurd rfl hne
  | cons p ps ih =>
      have hp : sep ∉ p := h p List.mem_cons_self
      cases ps with
      | nil =>
          rw [show joinWith sep [p] = p by simp [joinWith]]
          exact pieces_of_not_mem hp
      | cons q qs =>
          have hqs : ∀ r ∈ q :: qs, sep ∉ r := fun r hr => h r (List.mem_cons_of_mem _ hr)
          rw [joinWith_cons_cons, pieces_append_sep hp, ih (by simp) hqs]

/-- A text is joined from at most one list of pieces. -/
theorem joinWith_injective {sep : Char} {ps qs : List (List Char)} (hp : ps ≠ [])
    (hq : qs ≠ []) (hps : ∀ p ∈ ps, sep ∉ p) (hqs : ∀ q ∈ qs, sep ∉ q)
    (h : joinWith sep ps = joinWith sep qs) : ps = qs := by
  rw [← pieces_join hp hps, h, pieces_join hq hqs]

end Switchyard.Text
