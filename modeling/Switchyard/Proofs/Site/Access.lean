/-
  Switchyard.Proofs.Site.Access
  ─────────────────────────────
  Which requests the guard of the admin routes lets through.  It compares octets,
  but reads the header as text first, and a header is text only if it is plain:
  tabs and printable ASCII.  So a key that is not plain opens nothing.

      Headers.Presents — the first `Authorization` value holds a key

  Main statements:

      difference_eq_zero_iff — no bit differs only between equal sequences
      tokens_match_iff_equal — so matching is equality
      isGranted_iff          — what the guard lets through
-/
import Switchyard.Proofs.Http.HeaderText
import Switchyard.Site.Access

namespace Switchyard

/-! ## §1. Differing bits. -/

namespace Access

/-- A bit that was found to differ is never lost again. -/
theorem foldl_differences_eq_zero_iff (pairs : List (UInt8 × UInt8)) (bits : UInt8) :
    pairs.foldl (fun bits (a, b) => bits ||| (a ^^^ b)) bits = 0
      ↔ bits = 0 ∧ ∀ p ∈ pairs, p.1 = p.2 := by
  induction pairs generalizing bits with
  | nil => simp
  | cons p pairs ih =>
      rw [List.foldl_cons, ih, UInt8.or_eq_zero_iff, UInt8.xor_eq_zero_iff, and_assoc,
        List.forall_mem_cons]

/-- No bit differs exactly if no pair does. -/
theorem difference_eq_zero_iff_forall (presented expected : Bytes) :
    difference presented expected = 0 ↔ ∀ p ∈ presented.zip expected, p.1 = p.2 := by
  rw [difference, foldl_differences_eq_zero_iff, and_iff_right rfl]

/-- **No bit differs only between equal sequences**, if they are of one length. -/
theorem difference_eq_zero_iff {presented expected : Bytes}
    (hlength : presented.length = expected.length) :
    difference presented expected = 0 ↔ presented = expected := by
  rw [difference_eq_zero_iff_forall]
  induction presented generalizing expected with
  | nil => simp [List.length_eq_zero_iff.mp hlength.symm]
  | cons a presented ih =>
      cases expected with
      | nil => simp at hlength
      | cons b expected =>
          rw [List.zip_cons_cons, List.forall_mem_cons, ih (Nat.succ.inj hlength),
            List.cons.injEq]

theorem tokensMatch_eq_true_iff {presented expected : Bytes} :
    tokensMatch presented expected = true ↔ presented = expected := by
  rw [tokensMatch, decide_eq_true_iff]
  constructor
  · rintro ⟨hlength, hsame⟩
    exact (difference_eq_zero_iff hlength).mp hsame
  · rintro rfl
    exact ⟨rfl, (difference_eq_zero_iff rfl).mpr rfl⟩

/-- **The comparison of tokens is equality.**  Two sequences of octets match
exactly if they are the same.  Their lengths are compared first, and then all
pairs, with no way out at the first that differs: what is gathered of them is zero
only if the octets of every pair agree. -/
theorem tokens_match_iff_equal (presented expected : Bytes) :
    (tokensMatch presented expected = true ↔ presented = expected)
      ∧ (difference presented expected = 0
        ↔ ∀ p ∈ presented.zip expected, p.1 = p.2) :=
  ⟨tokensMatch_eq_true_iff, difference_eq_zero_iff_forall presented expected⟩

/-- A letter in the other case is one bit, and it is found behind others that agree. -/
example : difference (Utf8.encode "s3cret") (Utf8.encode "s3creT") = 32 := by
  decide +kernel

end Access

/-! ## §2. Keys in headers. -/

/-- The octets of the first `Authorization` value are `Bearer ` and a key. -/
def Headers.Presents (h : Headers) (key : String) : Prop :=
  ∃ v, h.get? .authorization = some v ∧ v.bytes = Utf8.encode ("Bearer " ++ key)

instance (h : Headers) (key : String) : Decidable (h.Presents key) :=
  decidable_of_iff
    ((h.get? .authorization).any fun v => v.bytes = Utf8.encode ("Bearer " ++ key)) <| by
    simp [Headers.Presents, Option.any_eq_true]

theorem isPlainText_append (s t : String) :
    isPlainText (s ++ t) = (isPlainText s && isPlainText t) := by
  rw [isPlainText, String.toList_append, List.all_append]
  rfl

theorem HeaderValue.ofString?_of_bytes {v : HeaderValue} {s : String}
    (h : v.bytes = Utf8.encode s) : ofString? s = some v := by
  rw [ofString?, ← h, ofBytes?, dif_pos v.valid]

namespace Access

/-- A token is presented exactly where the value is plain text. -/
theorem token?_eq_some_iff {h : Headers} {token : String} :
    token? h = some token ↔ h.Presents token ∧ isPlainText token = true := by
  have hbearer : isPlainText "Bearer " = true := by
    decide
  constructor
  · intro htoken
    obtain ⟨s, htext, htoken⟩ := Option.bind_eq_some_iff.mp htoken
    obtain ⟨rest, hrest, htoken⟩ := Option.bind_eq_some_iff.mp htoken
    obtain rfl := Option.some.inj htoken
    obtain ⟨v, hv, htext⟩ := Option.bind_eq_some_iff.mp htext
    have hs : s = "Bearer " ++ String.ofList rest := by
      have hchars := List.isPrefixOf?_eq_some_iff_append_eq.mp hrest
      rw [← String.toList_inj, String.toList_append, ← hchars, List.append_cancel_left_eq]
      exact String.toList_ofList.symm
    have hvalue := HeaderValue.ofString?_of_text? htext
    refine ⟨⟨v, hv, hs ▸ HeaderValue.bytes_of_ofString? hvalue⟩, ?_⟩
    -- A value that can be read is plain, and so is each part of it.
    have hplain : isPlainText s = true := by
      rw [HeaderValue.text?_of_ofString? hvalue] at htext
      by_contra hnot
      rw [if_neg hnot] at htext
      exact absurd htext (by simp)
    rw [hs, isPlainText_append, hbearer] at hplain
    exact hplain
  · rintro ⟨⟨v, hv, hbytes⟩, hplain⟩
    have hvalue := HeaderValue.ofString?_of_bytes hbytes
    have htext : h.text? .authorization = some ("Bearer " ++ token) := by
      rw [Headers.text?, hv, Option.bind_some, HeaderValue.text?_of_ofString? hvalue,
        if_pos (by rw [isPlainText_append, hbearer, hplain]; rfl)]
    have hrest : "Bearer ".toList.isPrefixOf? ("Bearer " ++ token).toList = some token.toList := by
      rw [List.isPrefixOf?_eq_some_iff_append_eq, String.toList_append]
    show (h.text? .authorization).bind _ = _
    rw [htext, Option.bind_some]
    show ("Bearer ".toList.isPrefixOf? ("Bearer " ++ token).toList).bind _ = _
    rw [hrest, Option.bind_some, String.ofList_toList]
    rfl

/-- **What the guard lets through**: requests that present the key, if it is not
empty and plain. -/
theorem isGranted_iff {key : String} {h : Headers} :
    isGranted key h = true ↔ key ≠ "" ∧ isPlainText key = true ∧ h.Presents key := by
  -- Tokens match if their octets are the same, and these spell one text only.
  have hmatch (token : String) :
      tokensMatch (Utf8.encode token) (Utf8.encode key) = true ↔ token = key := by
    rw [tokensMatch_eq_true_iff]
    exact ⟨fun h => Utf8.encode_injective h, congrArg Utf8.encode⟩
  have htoken : isGranted key h = true ↔ key ≠ "" ∧ token? h = some key := by
    unfold isGranted
    cases token? h with
    | none => simp
    | some token => simp [hmatch]
  rw [htoken, token?_eq_some_iff, and_comm (a := h.Presents key)]

end Access

end Switchyard
