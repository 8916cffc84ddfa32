/-
  Switchyard.Text.Split
  ─────────────────────
  Cutting a text at a separator character: at every occurrence (`pieces`),
  at the first (`cutFirst?`) or at the last (`cutLast?`), and dropping one
  separator at either end (`trimSlashes`).

  Main statements:

      pieces_ne_nil       — a text always has at least one piece
      join_pieces         — joining the pieces gives the text back
      cutFirst?_eq_some   — what a cut returns rebuilds the text
-/

namespace Switchyard.Text

/-! ## §1. Pieces between separators. -/

/-- The pieces of a text between the occurrences of `sep`: one more piece
than there are separators, so the empty text has one empty piece. -/
def pieces (sep : Char) : List Char → List (List Char)
  | [] => [[]]
  | c :: cs =>
      if c = sep then [] :: pieces sep cs
      else
        match pieces sep cs with
        | [] => [[c]]
        | p :: ps => (c :: p) :: ps

/-- The pieces of a string. -/
def split (sep : Char) (s : String) : List String :=
  (pieces sep s.toList).map String.ofList

/-- The texts, one `sep` between each two neighbours. -/
def joinWith (sep : Char) (ps : List (List Char)) : List Char :=
  List.intercalate [sep] ps

theorem pieces_ne_nil (sep : Char) (cs : List Char) : pieces sep cs ≠ [] := by
  induction cs with
  | nil => simp [pieces]
  | cons c cs ih =>
    by_cases h : c = sep
    · simp [pieces, h]
    · cases hp : pieces sep cs <;> simp [pieces, h, hp]

theorem join_pieces (sep : Char) (cs : List Char) : joinWith sep (pieces sep cs) = cs := by
  induction cs with
  | nil => simp [pieces, joinWith]
  | cons c cs ih =>
    have hne := pieces_ne_nil sep cs
    by_cases h : c = sep
    · cases hp : pieces sep cs with
      | nil => exact absurd hp hne
      | cons p ps => simp_all [pieces, joinWith, List.intercalate_cons_cons]
    · cases hp : pieces sep cs with
      | nil => exact absurd hp hne
      | cons p ps =>
        cases ps with
        | nil => simp_all [pieces, joinWith]
        | cons q qs => simp_all [pieces, joinWith, List.intercalate_cons_cons]

/-! ## §2. Cuts at one separator. -/

/-- The texts before and after the first `sep`. -/
def cutFirst? (sep : Char) : List Char → Option (List Char × List Char)
  | [] => none
  | c :: cs =>
      if c = sep then some ([], cs)
      else (cutFirst? sep cs).map fun cut => (c :: cut.1, cut.2)

/-- The texts before and after the last `sep`. -/
def cutLast? (sep : Char) : List Char → Option (List Char × List Char)
  | [] => none
  | c :: cs =>
      match cutLast? sep cs with
      | some (before, after) => some (c :: before, after)
      | none => if c = sep then some ([], cs) else none

theorem cutFirst?_eq_some {sep : Char} {cs a b : List Char}
    (h : cutFirst? sep cs = some (a, b)) : cs = a ++ sep :: b ∧ sep ∉ a := by
  induction cs generalizing a with
  | nil => simp [cutFirst?] at h
  | cons c cs ih =>
    by_cases hc : c = sep
    · simp only [cutFirst?, hc, if_true, Option.some.injEq, Prod.mk.injEq] at h
      obtain ⟨rfl, rfl⟩ := h
      simp [hc]
    · simp only [cutFirst?, hc, if_false, Option.map_eq_some_iff, Prod.mk.injEq] at h
      obtain ⟨⟨a', b'⟩, h', rfl, rfl⟩ := h
      obtain ⟨rfl, hn⟩ := ih h'
      exact ⟨rfl, by simp [hn, Ne.symm hc]⟩

theorem cutLast?_eq_some {sep : Char} {cs a b : List Char}
    (h : cutLast? sep cs = some (a, b)) : cs = a ++ sep :: b ∧ sep ∉ b := by
  induction cs generalizing a b with
  | nil => simp [cutLast?] at h
  | cons c cs ih =>
    cases hl : cutLast? sep cs with
    | some cut =>
      obtain ⟨a', b'⟩ := cut
      simp only [cutLast?, hl, Option.some.injEq, Prod.mk.injEq] at h
      obtain ⟨rfl, rfl⟩ := h
      obtain ⟨rfl, hn⟩ := ih hl
      exact ⟨rfl, hn⟩
    | none =>
      have hn : ∀ ds : List Char, cutLast? sep ds = none → sep ∉ ds := by
        intro ds
        induction ds with
        | nil => simp
        | cons d ds ihd =>
          intro hd
          cases he : cutLast? sep ds with
          | some cut => simp [cutLast?, he] at hd
          | none =>
            by_cases hds : d = sep
            · simp [cutLast?, he, hds] at hd
            · simp [ihd he, Ne.symm hds]
      by_cases hc : c = sep
      · simp only [cutLast?, hl, hc, if_true, Option.some.injEq, Prod.mk.injEq] at h
        obtain ⟨rfl, rfl⟩ := h
        exact ⟨by simp [hc], hn _ hl⟩
      · simp [cutLast?, hl, hc] at h

/-! ## §3. Slashes at the ends. -/

/-- The text without one `/` in front, if it starts with one. -/
def dropLeadingSlash : List Char → List Char
  | '/' :: cs => cs
  | cs => cs

/-- The text without one `/` at its end, if it ends in one. -/
def dropTrailingSlash (cs : List Char) : List Char :=
  if cs.getLast? = some '/' then cs.dropLast else cs

/-- The text without at most one leading and then at most one trailing `/`. -/
def trimSlashes (cs : List Char) : List Char :=
  dropTrailingSlash (dropLeadingSlash cs)

end Switchyard.Text
