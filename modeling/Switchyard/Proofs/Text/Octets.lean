/-
  Switchyard.Proofs.Text.Octets
  ─────────────────────────────
  The octets of a text, character by character.  An ASCII character is one
  octet, the one with its number; all octets of another character are 0x80 or
  more, so none of them can be taken for an ASCII character.

      octets — the octets of some characters

  Main statements:

      encode_eq                — the octets of a string are those of its characters
      decode?_encode           — a string is read back from its octets
      le_of_mem_utf8EncodeChar — beyond ASCII no octet looks like ASCII
-/
import Mathlib.Data.List.Basic
import Switchyard.Text.Utf8

namespace Switchyard.Utf8

/-! ## §1. Texts. -/

/-- The octets of some characters, one after the other. -/
def octets (cs : List Char) : Bytes := cs.flatMap String.utf8EncodeChar

@[simp] theorem octets_nil : octets [] = [] := rfl

theorem octets_append (a b : List Char) : octets (a ++ b) = octets a ++ octets b :=
  List.flatMap_append

theorem octets_cons (c : Char) (cs : List Char) :
    octets (c :: cs) = String.utf8EncodeChar c ++ octets cs := rfl

theorem encode_eq (s : String) : encode s = octets s.toList := by
  rw [encode, octets, String.toUTF8_eq_toByteArray, ← String.utf8Encode_toList, List.utf8Encode]
  simp

/-- **A string is read back from its octets.** -/
theorem decode?_encode (s : String) : decode? (encode s) = some s := by
  have h : (encode s).toByteArray = s.toUTF8 := by
    rw [encode]
    ext1
    simp
  rw [decode?, h, String.fromUTF8?, dif_pos]
  rfl

/-- Different strings have different octets. -/
theorem encode_injective {s t : String} (h : encode s = encode t) : s = t := by
  have hdecode := congrArg decode? h
  rw [decode?_encode, decode?_encode] at hdecode
  exact Option.some.inj hdecode

/-- Every character is an octet at least. -/
theorem length_le_octets (cs : List Char) : cs.length ≤ (octets cs).length := by
  induction cs with
  | nil => exact Nat.le_refl _
  | cons c cs ih =>
      rw [octets_cons, List.length_append, String.length_utf8EncodeChar, List.length_cons]
      have hpos : 0 < c.utf8Size := Char.utf8Size_pos c
      omega

/-! ## §2. Characters. -/

theorem utf8EncodeChar_of_lt {c : Char} (h : c.toNat < 128) :
    String.utf8EncodeChar c = [UInt8.ofNat c.toNat] := if_pos (Nat.le_of_lt_succ h)

theorem octets_cons_of_lt {c : Char} (h : c.toNat < 128) (cs : List Char) :
    octets (c :: cs) = UInt8.ofNat c.toNat :: octets cs := by
  rw [octets_cons, utf8EncodeChar_of_lt h, List.singleton_append]

/-- The octet of an ASCII character tells the character. -/
theorem ofUInt8_ofNat {c : Char} (h : c.toNat < 128) :
    Char.ofUInt8 (UInt8.ofNat c.toNat) = c := by
  apply Char.ext
  apply UInt32.toNat_inj.mp
  show (UInt8.ofNat c.toNat).toUInt32.toNat = c.toNat
  rw [UInt8.toNat_toUInt32, UInt8.toNat_ofNat_of_lt' (by show c.toNat < 256; omega)]

/-- **Beyond ASCII no octet looks like ASCII.** -/
theorem le_of_mem_utf8EncodeChar {c : Char} (h : 128 ≤ c.toNat) {b : UInt8}
    (hb : b ∈ String.utf8EncodeChar c) : 128 ≤ b := by
  have hbig : ¬ c.val.toNat ≤ 127 := Nat.not_le.mpr h
  have hle (n : Nat) (hn : 128 ≤ n) (hlt : n < 256) : 128 ≤ UInt8.ofNat n := by
    rw [UInt8.le_iff_toNat_le, UInt8.toNat_ofNat_of_lt' hlt]
    exact hn
  rw [String.utf8EncodeChar, if_neg hbig] at hb
  -- Two, three or four octets: the first holds a mark above 0xC0, the others 0x80.
  split at hb
  · simp only [List.mem_cons, List.not_mem_nil, or_false] at hb
    rcases hb with rfl | rfl <;> exact hle _ (by omega) (by omega)
  · split at hb
    · simp only [List.mem_cons, List.not_mem_nil, or_false] at hb
      rcases hb with rfl | rfl | rfl <;> exact hle _ (by omega) (by omega)
    · simp only [List.mem_cons, List.not_mem_nil, or_false] at hb
      rcases hb with rfl | rfl | rfl | rfl <;> exact hle _ (by omega) (by omega)

end Switchyard.Utf8
