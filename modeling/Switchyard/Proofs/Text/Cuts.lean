/-
  Switchyard.Proofs.Text.Cuts
  ───────────────────────────
  A cut finds the separator that two texts were put together around, and the
  slashes that a text was put between are dropped again.

      slashed — a text with a slash at either end, or none

  Main statements:

      cutFirst?_append     — of several separators the first is found
      cutLast?_append      — or the last
      trimSlashes_slashed  — a text without slashes at its ends is what is left
-/
import Mathlib.Data.List.Basic
import Switchyard.Proofs.Text.Pieces

namespace Switchyard.Text

/-! ## §1. Cuts at one separator. -/

theorem cutFirst?_append {sep : Char} {a : List Char} (h : sep ∉ a) (b : List Char) :
    cutFirst? sep (a ++ sep :: b) = some (a, b) := by
  induction a with
  | nil => simp [cutFirst?]
  | cons c a ih =>
      -- Before the separator nothing is cut.
      have hc : c ≠ sep := fun hc => h (by simp [hc])
      have ha : sep ∉ a := fun hm => h (List.mem_cons_of_mem _ hm)
      rw [List.cons_append, cutFirst?, if_neg hc, ih ha]
      rfl

theorem cutFirst?_eq_none {sep : Char} {cs : List Char} (h : sep ∉ cs) :
    cutFirst? sep cs = none := by
  cases hcut : cutFirst? sep cs with
  | none => rfl
  | some cut =>
      obtain ⟨htext, -⟩ := cutFirst?_eq_some (a := cut.1) (b := cut.2) hcut
      exact absurd (htext ▸ List.mem_append_right _ List.mem_cons_self) h

theorem cutLast?_eq_none {sep : Char} {cs : List Char} (h : sep ∉ cs) :
    cutLast? sep cs = none := by
  cases hcut : cutLast? sep cs with
  | none => rfl
  | some cut =>
      obtain ⟨htext, -⟩ := cutLast?_eq_some (a := cut.1) (b := cut.2) hcut
      exact absurd (htext ▸ List.mem_append_right _ List.mem_cons_self) h

theorem not_mem_of_cutLast?_eq_none {sep : Char} {cs : List Char}
    (h : cutLast? sep cs = none) : sep ∉ cs := by
  induction cs with
  | nil => exact List.not_mem_nil
  | cons c cs ih =>
      rw [cutLast?] at h
      split at h
      · exact absurd h (by simp)
      · next hrest =>
        split at h
        · exact absurd h (by simp)
        · next hc =>
          intro hmem
          rcases List.mem_cons.mp hmem with rfl | hmem
          · exact hc rfl
          · exact ih hrest hmem

theorem cutLast?_append {sep : Char} (a : List Char) {b : List Char} (h : sep ∉ b) :
    cutLast? sep (a ++ sep :: b) = some (a, b) := by
  induction a with
  | nil =>
      rw [List.nil_append, cutLast?, cutLast?_eq_none h]
      exact if_pos rfl
  | cons c a ih => rw [List.cons_append, cutLast?, ih]

/-! ## §2. Slashes at the ends. -/

/-- The text with a slash in front, behind it, at both ends or at none. -/
def slashed (leading trailing : Bool) (cs : List Char) : List Char :=
  (if leading then ['/'] else []) ++ cs ++ if trailing then ['/'] else []

theorem dropLeadingSlash_of_head? {cs : List Char} (h : cs.head? ≠ some '/') :
    dropLeadingSlash cs = cs := by
  unfold dropLeadingSlash
  split
  · exact absurd rfl h
  · rfl

theorem dropTrailingSlash_append (cs : List Char) : dropTrailingSlash (cs ++ ['/']) = cs := by
  rw [dropTrailingSlash, if_pos List.getLast?_concat, List.dropLast_concat]

/-- **What is put between slashes is what is left when they are dropped**, if
it neither begins nor ends with one itself. -/
theorem trimSlashes_slashed (leading trailing : Bool) {cs : List Char}
    (hfirst : cs.head? ≠ some '/') (hlast : cs.getLast? ≠ some '/') :
    trimSlashes (slashed leading trailing cs) = cs := by
  have hdrop : dropTrailingSlash cs = cs := if_neg hlast
  cases leading with
  | true =>
      show dropTrailingSlash (cs ++ if trailing then ['/'] else []) = cs
      cases trailing with
      | true => exact dropTrailingSlash_append cs
      | false => simpa using hdrop
  | false =>
      cases trailing with
      | false =>
          show dropTrailingSlash (dropLeadingSlash (cs ++ [])) = cs
          rw [List.append_nil, dropLeadingSlash_of_head? hfirst, hdrop]
      | true =>
          show dropTrailingSlash (dropLeadingSlash (cs ++ ['/'])) = cs
          cases cs with
          | nil => rfl
          | cons c cs =>
              -- The slash behind is not the one in front, as there is a text between.
              have hfirst' : (c :: cs ++ ['/']).head? ≠ some '/' := hfirst
              rw [dropLeadingSlash_of_head? hfirst']
              exact dropTrailingSlash_append (c :: cs)

/-! ## §3. The ends of a joined text. -/

/-- Pieces that are not empty and have no separator make a text that neither
begins nor ends with one. -/
theorem joinWith_ends {sep : Char} {ps : List (List Char)} (h : ∀ p ∈ ps, p ≠ [] ∧ sep ∉ p) :
    (joinWith sep ps).head? ≠ some sep ∧ (joinWith sep ps).getLast? ≠ some sep := by
  induction ps with
  | nil => simp [joinWith]
  | cons p ps ih =>
      obtain ⟨hne, hp⟩ := h p List.mem_cons_self
      have hhead : p.head? ≠ some sep := fun hh => hp (List.mem_of_head? hh)
      -- The beginning is that of the first piece, the end is that of the rest, if there is any.
      cases ps with
      | nil =>
          rw [show joinWith sep [p] = p by simp [joinWith]]
          exact ⟨hhead, fun hl => hp (List.mem_of_getLast? hl)⟩
      | cons q qs =>
          obtain ⟨-, hlast⟩ := ih fun r hr => h r (List.mem_cons_of_mem _ hr)
          have hrest : joinWith sep (q :: qs) ≠ [] := by
            obtain ⟨hq, -⟩ := h q (by simp)
            cases qs with
            | nil => simpa [joinWith] using hq
            | cons r rs => simp [joinWith_cons_cons]
          rw [joinWith_cons_cons]
          constructor
          · rw [List.head?_append_of_ne_nil _ hne]
            exact hhead
          · rw [List.getLast?_append_cons, List.getLast?_cons_of_ne_nil hrest]
            exact hlast

end Switchyard.Text
