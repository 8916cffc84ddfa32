/-
  Switchyard.Proofs.Json.Scalars
  ──────────────────────────────
  Strings and numbers are read back from their text.  A string is read octet
  by octet: what each character is written as spells that character (`Spells`),
  whether it stands for itself, behind a backslash or by its number.

      Ends     — what may follow a number that has come to its end

  Main statements:

      spells_escaped     — the text of a character spells it
      restOfText_quoted  — a string in its quotes is read back
      number_toDigits    — and so is a natural number in its digits
-/
import Mathlib.Data.List.TakeDrop
import Mathlib.Tactic.SplitIfs
import Switchyard.Json.Typed
import Switchyard.Json.Value
import Switchyard.Proofs.Text.Octets

namespace Switchyard.Json

open Utf8 (octets octets_append octets_cons octets_cons_of_lt)

namespace Reader

/-- A reader that goes on after one that made something of the text. -/
theorem bind_of_ok {α β : Type} {r : Reader α} {f : α → Reader β} {bs rest : Bytes} {a : α}
    (h : r bs = .ok (a, rest)) : (r >>= f) bs = f a rest := by
  show (r bs >>= fun p => f p.1 p.2) = _
  rw [h]
  rfl

theorem map_of_ok {α β : Type} {r : Reader α} {f : α → β} {bs rest : Bytes} {a : α}
    (h : r bs = .ok (a, rest)) : (f <$> r) bs = .ok (f a, rest) := by
  show (r bs >>= fun p => pure (f p.1, p.2)) = _
  rw [h]
  rfl

end Reader

/-! ## §1. What spells a character. -/

theorem unquote_cons {place place' : Place} {b : UInt8} {out : Bytes}
    (h : place.step true b = .ok (out, some place')) (bs : Bytes) :
    unquote true place (b :: bs)
      = (unquote true place' bs).map fun (more, rest) => (out ++ more, rest) := by
  rw [unquote, h]

/-- An octet that adds nothing leads to another place only. -/
theorem unquote_cons_nil {place place' : Place} {b : UInt8}
    (h : place.step true b = .ok ([], some place')) (bs : Bytes) :
    unquote true place (b :: bs) = unquote true place' bs := by
  rw [unquote_cons h]
  cases unquote true place' bs with
  | error fault => rfl
  | ok p => rfl

/-- Within a string the octets `written` add the octets `out`, whatever
follows them. -/
def Spells (written out : Bytes) : Prop :=
  ∀ bs, unquote true .plain (written ++ bs)
    = (unquote true .plain bs).map fun (more, rest) => (out ++ more, rest)

theorem Spells.nil : Spells [] [] := by
  intro bs
  show unquote true .plain bs = _
  cases unquote true .plain bs with
  | error fault => rfl
  | ok p => rfl

theorem Spells.append {written written' out out' : Bytes} (h : Spells written out)
    (h' : Spells written' out') : Spells (written ++ written') (out ++ out') := by
  intro bs
  rw [List.append_assoc, h, h']
  cases unquote true .plain bs with
  | error fault => rfl
  | ok p => simp [Except.map]

/-- Octets that stand for themselves. -/
theorem spells_self {bs : Bytes}
    (h : ∀ b ∈ bs, Place.step true b .plain = .ok ([b], some .plain)) : Spells bs bs := by
  induction bs with
  | nil => exact .nil
  | cons b bs ih =>
      have hb : Spells [b] [b] := fun rest => unquote_cons (h b List.mem_cons_self) rest
      exact hb.append (ih fun b' hb' => h b' (List.mem_cons_of_mem _ hb'))

/-! ## §2. The three ways to write a character. -/

/-- **All that escaping can do**: a letter behind a backslash, the number of a
control character, or the character itself. -/
theorem escaped_cases (c : Char) :
    (∃ letter, letter.toNat < 128 ∧ shortEscape? letter = some c ∧ escaped c = ['\\', letter])
      ∨ (c.toNat < 0x20 ∧ escaped c
        = ['\\', 'u', '0', '0', Nat.digitChar (c.toNat / 16), Nat.digitChar (c.toNat % 16)])
      ∨ (0x20 ≤ c.toNat ∧ c ≠ '"' ∧ c ≠ '\\' ∧ escaped c = [c]) := by
  unfold escaped
  split_ifs with hquote hslash hb hf hn hr ht hcontrol
  · exact Or.inl ⟨'"', by decide, by rw [hquote]; rfl, rfl⟩
  · exact Or.inl ⟨'\\', by decide, by rw [hslash]; rfl, rfl⟩
  · exact Or.inl ⟨'b', by decide, by rw [hb]; rfl, rfl⟩
  · exact Or.inl ⟨'f', by decide, by rw [hf]; rfl, rfl⟩
  · exact Or.inl ⟨'n', by decide, by rw [hn]; rfl, rfl⟩
  · exact Or.inl ⟨'r', by decide, by rw [hr]; rfl, rfl⟩
  · exact Or.inl ⟨'t', by decide, by rw [ht]; rfl, rfl⟩
  · exact Or.inr (Or.inl ⟨hcontrol, rfl⟩)
  · exact Or.inr (Or.inr ⟨Nat.not_lt.mp hcontrol, hquote, hslash, rfl⟩)

/-- Behind a backslash. -/
theorem spells_letter {letter c : Char} (hascii : letter.toNat < 128)
    (h : shortEscape? letter = some c) :
    Spells (octets ['\\', letter]) (String.utf8EncodeChar c) := by
  have hu : letter ≠ 'u' := by
    rintro rfl
    simp [shortEscape?] at h
  have hslash : Place.step true (UInt8.ofNat '\\'.toNat) .plain = .ok ([], some .escape) := rfl
  have hletter : Place.step true (UInt8.ofNat letter.toNat) .escape
      = .ok (String.utf8EncodeChar c, some .plain) := by
    simp only [Place.step, sign, Utf8.ofUInt8_ofNat hascii, if_neg hu, h]
  intro bs
  rw [octets_cons_of_lt (by decide), octets_cons_of_lt hascii]
  show unquote true .plain (UInt8.ofNat '\\'.toNat :: UInt8.ofNat letter.toNat :: bs) = _
  rw [unquote_cons_nil hslash, unquote_cons hletter]

theorem code?_control : ∀ n < 32,
    code? ['0', '0', Nat.digitChar (n / 16), Nat.digitChar (n % 16)] = some n := by
  decide

theorem toNat_digitChar_lt : ∀ n < 16, (Nat.digitChar n).toNat < 128 := by
  decide

/-- The number of a control character is no half of a pair. -/
theorem ofCode_control {c : Char} (h : c.toNat < 0x20) :
    Place.ofCode none c.toNat = .ok (String.utf8EncodeChar c, .plain) := by
  have hhigh : isHigh c.toNat = false := by
    simp only [isHigh, Bool.and_eq_false_iff, decide_eq_false_iff_not]
    omega
  have hlow : isLow c.toNat = false := by
    simp only [isLow, Bool.and_eq_false_iff, decide_eq_false_iff_not]
    omega
  simp [Place.ofCode, hhigh, hlow, Char.ofNat_toNat]

/-- By the number. -/
theorem spells_number {c : Char} (h : c.toNat < 0x20) :
    Spells (octets ['\\', 'u', '0', '0',
        Nat.digitChar (c.toNat / 16), Nat.digitChar (c.toNat % 16)])
      (String.utf8EncodeChar c) := by
  have hhi := toNat_digitChar_lt (c.toNat / 16) (by omega)
  have hlo := toNat_digitChar_lt (c.toNat % 16) (by omega)
  have h1 : Place.step true (UInt8.ofNat '\\'.toNat) .plain = .ok ([], some .escape) := rfl
  have h2 : Place.step true (UInt8.ofNat 'u'.toNat) .escape = .ok ([], some (.code none [])) := rfl
  have h3 : Place.step true (UInt8.ofNat '0'.toNat) (.code none [])
      = .ok ([], some (.code none ['0'])) := rfl
  have h4 : Place.step true (UInt8.ofNat '0'.toNat) (.code none ['0'])
      = .ok ([], some (.code none ['0', '0'])) := rfl
  have h5 : Place.step true (UInt8.ofNat (Nat.digitChar (c.toNat / 16)).toNat)
      (.code none ['0', '0'])
      = .ok ([], some (.code none ['0', '0', Nat.digitChar (c.toNat / 16)])) := by
    simp only [Place.step, sign, Utf8.ofUInt8_ofNat hhi]
    rfl
  -- The fourth digit makes the number whole.
  have h6 : Place.step true (UInt8.ofNat (Nat.digitChar (c.toNat % 16)).toNat)
      (.code none ['0', '0', Nat.digitChar (c.toNat / 16)])
      = .ok (String.utf8EncodeChar c, some .plain) := by
    simp only [Place.step, sign, Utf8.ofUInt8_ofNat hlo, List.cons_append, List.nil_append,
      code?_control c.toNat h, ofCode_control h]
    rfl
  intro bs
  rw [octets_cons_of_lt (by decide), octets_cons_of_lt (by decide), octets_cons_of_lt (by decide),
    octets_cons_of_lt (by decide), octets_cons_of_lt hhi, octets_cons_of_lt hlo]
  simp only [List.cons_append]
  rw [unquote_cons_nil h1, unquote_cons_nil h2, unquote_cons_nil h3, unquote_cons_nil h4,
    unquote_cons_nil h5, unquote_cons h6]
  rfl

theorem step_plain {b : UInt8} (h : 0x20 ≤ b) (hquote : sign b ≠ '"') (hslash : sign b ≠ '\\') :
    Place.step true b .plain = .ok ([b], some .plain) := by
  have hb : ¬ b < 0x20 := UInt8.not_lt.mpr h
  simp only [Place.step, if_neg hquote, if_neg hslash, if_neg hb]

/-- By itself. -/
theorem spells_char {c : Char} (h : 0x20 ≤ c.toNat) (hquote : c ≠ '"') (hslash : c ≠ '\\') :
    Spells (octets [c]) (String.utf8EncodeChar c) := by
  rw [octets_cons, Utf8.octets_nil, List.append_nil]
  refine spells_self fun b hb => ?_
  by_cases hascii : c.toNat < 128
  · rw [Utf8.utf8EncodeChar_of_lt hascii, List.mem_singleton] at hb
    subst hb
    refine step_plain ?_ ?_ ?_
    · rw [UInt8.le_iff_toNat_le, UInt8.toNat_ofNat_of_lt' (by show c.toNat < 256; omega)]
      exact h
    · rwa [sign, Utf8.ofUInt8_ofNat hascii]
    · rwa [sign, Utf8.ofUInt8_ofNat hascii]
  · -- No octet of the character can be taken for a quote or a backslash.
    have hle : 128 ≤ b.toNat :=
      UInt8.le_iff_toNat_le.mp (Utf8.le_of_mem_utf8EncodeChar (Nat.not_lt.mp hascii) hb)
    have hne : ∀ d : Char, d.toNat < 128 → sign b ≠ d := by
      rintro d hd rfl
      have hd' : b.toNat < 128 := hd
      omega
    refine step_plain ?_ (hne _ (by decide)) (hne _ (by decide))
    rw [UInt8.le_iff_toNat_le]
    exact Nat.le_trans (by decide) hle

/-- **The text of a character spells it.** -/
theorem spells_escaped (c : Char) : Spells (octets (escaped c)) (String.utf8EncodeChar c) := by
  rcases escaped_cases c with ⟨letter, hascii, hletter, he⟩ | ⟨h, he⟩ | ⟨h, hquote, hslash, he⟩
  · rw [he]
    exact spells_letter hascii hletter
  · rw [he]
    exact spells_number h
  · rw [he]
    exact spells_char h hquote hslash

/-! ## §3. Strings. -/

theorem spells_all_escaped (cs : List Char) : Spells (octets (cs.flatMap escaped)) (octets cs) := by
  induction cs with
  | nil => exact .nil
  | cons c cs ih =>
      rw [List.flatMap_cons, octets_append, octets_cons]
      exact (spells_escaped c).append ih

/-- **A string is read back** behind its opening quote. -/
theorem restOfText_quoted (s : String) (rest : Bytes) :
    Reader.restOfText (octets (s.toList.flatMap escaped ++ ['"']) ++ rest) = .ok (s, rest) := by
  have hclosing : unquote true .plain (octets ['"'] ++ rest) = .ok ([], rest) := rfl
  have hbody : unquote true .plain (octets (s.toList.flatMap escaped ++ ['"']) ++ rest)
      = .ok (octets s.toList, rest) := by
    rw [octets_append, List.append_assoc, spells_all_escaped, hclosing]
    simp [Except.map]
  rw [Reader.restOfText, Reader.bind_of_ok hbody, ← Utf8.encode_eq, Utf8.decode?_encode]
  rfl

/-! ## §4. Digits. -/

theorem toNat_of_isDigit {c : Char} (h : c.isDigit = true) : 48 ≤ c.toNat ∧ c.toNat ≤ 57 :=
  Char.isDigit_iff_toNat.mp h

theorem digit?_of_isDigit {c : Char} (h : c.isDigit = true) :
    Text.digit? 10 c = some (c.toNat - 48) := by
  have hdecimal : '0' ≤ c ∧ c ≤ '9' := Char.isDigit_iff_toNat.mp h
  have hlt : c.toNat - 48 < 10 := by
    have := toNat_of_isDigit h
    omega
  simp only [Text.digit?, if_pos hdecimal, if_pos hlt]

theorem valueIn_of_isDigit {ds : List Char} (h : ∀ d ∈ ds, d.isDigit = true) :
    Text.valueIn 10 ds = Nat.ofDigitChars 10 ds 0 := by
  have hfold : ∀ n : Nat, ds.foldl (fun n d => n * 10 + (Text.digit? 10 d).getD 0) n
      = Nat.ofDigitChars 10 ds n := by
    induction ds with
    | nil => exact fun n => Nat.ofDigitChars_nil.symm
    | cons d ds ih =>
        intro n
        rw [List.foldl_cons, Nat.ofDigitChars_cons,
          ih fun d' hd' => h d' (List.mem_cons_of_mem _ hd'),
          digit?_of_isDigit (h d List.mem_cons_self), Option.getD_some, Nat.mul_comm]
        rfl
  exact hfold 0

theorem isDigit_toDigits {n : Nat} {d : Char} (h : d ∈ Nat.toDigits 10 n) : d.isDigit = true :=
  Nat.isDigit_of_mem_toDigits (by decide) (by decide) h

/-- Only zero begins with a zero. -/
theorem eq_zero_of_head?_toDigits {n : Nat} (h : (Nat.toDigits 10 n).head? = some '0') : n = 0 := by
  induction n using Nat.base_induction 10 (by decide) with
  | single m hm =>
      rw [Nat.toDigits_of_lt_base hm] at h
      simpa using h
  | digit m k hk hm ih =>
      rw [← Nat.toDigits_append_toDigits (by decide) hm hk,
        List.head?_append_of_ne_nil _ Nat.toDigits_ne_nil] at h
      have hzero := ih h
      omega

/-- The octets of digits are those with their numbers. -/
theorem octets_of_isDigit {ds : List Char} (h : ∀ d ∈ ds, d.isDigit = true) :
    (octets ds).map sign = ds ∧ ∀ b ∈ octets ds, (sign b).isDigit = true := by
  induction ds with
  | nil => exact ⟨rfl, by simp⟩
  | cons d ds ih =>
      have hd := h d List.mem_cons_self
      have hascii : d.toNat < 128 := by
        have := toNat_of_isDigit hd
        omega
      obtain ⟨hmap, hall⟩ := ih fun d' hd' => h d' (List.mem_cons_of_mem _ hd')
      rw [octets_cons_of_lt hascii]
      constructor
      · rw [List.map_cons, hmap, sign, Utf8.ofUInt8_ofNat hascii]
      · intro b hb
        rcases List.mem_cons.mp hb with rfl | hb
        · rwa [sign, Utf8.ofUInt8_ofNat hascii]
        · exact hall b hb

/-! ## §5. Numbers. -/

/-- What may follow a value: nothing, or a mark that goes on or closes. -/
def Ends (rest : Bytes) : Prop :=
  ∀ b ∈ rest.head?, sign b = ',' ∨ sign b = ']' ∨ sign b = '\x7d'

/-- What is no such mark does not follow a value. -/
theorem Ends.head? {rest : Bytes} (h : Ends rest) {p : Char → Bool}
    (hp : p ',' = false ∧ p ']' = false ∧ p '\x7d' = false) :
    ∀ b ∈ rest.head?, p (sign b) = false := by
  intro b hb
  rcases h b hb with hb | hb | hb
  · rw [hb]
    exact hp.1
  · rw [hb]
    exact hp.2.1
  · rw [hb]
    exact hp.2.2

namespace Reader

theorem accept_of_head? {p : Char → Bool} {bs : Bytes} (h : ∀ b ∈ bs.head?, p (sign b) = false) :
    accept p bs = .ok (false, bs) := by
  cases bs with
  | nil => rfl
  | cons b bs =>
      have hb : p (sign b) = false := h b rfl
      simp [accept, hb]

theorem digits_append {ds rest : Bytes} {atEnd : ReadFault} (hne : ds ≠ [])
    (hds : ∀ b ∈ ds, (sign b).isDigit = true) (hrest : ∀ b ∈ rest.head?, (sign b).isDigit = false) :
    digits atEnd (ds ++ rest) = .ok (ds.map sign, rest) := by
  have hdrop : rest.dropWhile (fun b => (sign b).isDigit) = rest := by
    cases rest with
    | nil => rfl
    | cons b rest => rw [List.dropWhile_cons_of_neg (by simp [hrest b rfl])]
  have htake : rest.takeWhile (fun b => (sign b).isDigit) = [] := by
    cases rest with
    | nil => rfl
    | cons b rest => rw [List.takeWhile_cons_of_neg (by simp [hrest b rfl])]
  have hspan : (ds ++ rest).span (fun b => (sign b).isDigit) = (ds, rest) := by
    rw [List.span_eq_takeWhile_dropWhile, List.takeWhile_append_of_pos hds,
      List.dropWhile_append_of_pos hds, hdrop, htake, List.append_nil]
  cases ds with
  | nil => exact absurd rfl hne
  | cons b ds => simp only [digits, hspan]

theorem part_of_head? {atEnd : ReadFault} {opens : Char → Bool} {maySign : Bool} {bs : Bytes}
    (h : ∀ b ∈ bs.head?, opens (sign b) = false) :
    part atEnd opens maySign bs = .ok (false, bs) := by
  rw [part, bind_of_ok (accept_of_head? h)]
  rfl

/-- **A natural number is read back** where a value may end. -/
theorem number_toDigits (n : Nat) (atEnd : ReadFault) {rest : Bytes} (hrest : Ends rest) :
    number atEnd (octets (Nat.toDigits 10 n) ++ rest) = .ok (some n, rest) := by
  obtain ⟨hmap, hall⟩ := octets_of_isDigit fun d hd => isDigit_toDigits (n := n) hd
  have hne : octets (Nat.toDigits 10 n) ≠ [] := by
    intro hnil
    rw [hnil] at hmap
    exact Nat.toDigits_ne_nil hmap.symm
  -- A digit is no sign, and what follows is no part of the number.
  have hfirst : ∀ b ∈ (octets (Nat.toDigits 10 n) ++ rest).head?,
      decide (sign b = '-') = false := by
    intro b hb
    rw [List.head?_append_of_ne_nil _ hne] at hb
    have hdigit := hall b (List.mem_of_mem_head? hb)
    rw [decide_eq_false_iff_not]
    intro hminus
    rw [hminus] at hdigit
    simp at hdigit
  have hdigits : digits atEnd (octets (Nat.toDigits 10 n) ++ rest)
      = .ok (Nat.toDigits 10 n, rest) := by
    rw [digits_append hne hall (hrest.head? (p := Char.isDigit) (by decide)), hmap]
  have hpoint : part atEnd (· = '.') false rest = .ok (false, rest) :=
    part_of_head? (hrest.head? (p := (· = '.')) (by decide))
  have hexponent : part atEnd (fun c => c = 'e' || c = 'E') true rest = .ok (false, rest) :=
    part_of_head? (hrest.head? (p := fun c => c = 'e' || c = 'E') (by decide))
  have hzeros :
      ((Nat.toDigits 10 n).head? = some '0' && (Nat.toDigits 10 n).length ≠ 1) = false := by
    by_cases hhead : (Nat.toDigits 10 n).head? = some '0'
    · rw [eq_zero_of_head?_toDigits hhead]
      rfl
    · simp [hhead]
  rw [number, bind_of_ok (accept_of_head? hfirst), bind_of_ok hdigits, hzeros]
  show (part atEnd (· = '.') false >>= _) rest = _
  rw [bind_of_ok hpoint, bind_of_ok hexponent, valueIn_of_isDigit fun d hd => isDigit_toDigits hd,
    Nat.ofDigitChars_ten_toDigits]
  rfl

end Reader

end Switchyard.Json
