/-
  Switchyard.Proofs.Http.HeaderText
  ─────────────────────────────────
  Header fields as texts.  A name is read back from its own text.  A value is
  made of any text without control characters, but it can be read only if the
  text is plain: tabs and printable ASCII.  What can be read gives the value
  back.

      IsPlainText      — the texts that are read back
      Headers.readable — the fields whose values can be read

  Main statements:

      HeaderName.ofString?_text      — a name is read back
      HeaderValue.ofString?_of_text? — so is a value that can be read
      HeaderValue.text?_of_ofString? — which are those of plain texts
-/
import Switchyard.Http.Header
import Switchyard.Proofs.Text.Octets

namespace Switchyard

/-! ## §1. Names. -/

theorem Text.lowercase_of_forall {s : String} (h : ∀ c ∈ s.toList, c.isUpper = false) :
    Text.lowercase s = s := by
  have hmap : s.toList.map Char.toLower = s.toList.map id :=
    List.map_congr_left fun c hc => dif_neg (of_decide_eq_false (h c hc))
  rw [Text.lowercase, hmap, List.map_id, String.ofList_toList]

theorem Text.isUpper_toLower (c : Char) : c.toLower.isUpper = false := by
  unfold Char.toLower
  split
  · next h =>
    -- The small letters come 32 places after the capital ones, which are 26.
    have hlow := UInt32.le_iff_toNat_le.mp h.1
    have hhigh := UInt32.le_iff_toNat_le.mp h.2
    have hA : ('A'.val).toNat = 65 := rfl
    have hZ : ('Z'.val).toNat = 90 := rfl
    have hshift : ('a'.val - 'A'.val).toNat = 32 := rfl
    refine decide_eq_false fun hupper => ?_
    have hle := UInt32.le_iff_toNat_le.mp hupper.2
    rw [UInt32.toNat_add] at hle
    omega
  · next h => exact decide_eq_false h

theorem Text.lowercase_lowercase (s : String) :
    Text.lowercase (Text.lowercase s) = Text.lowercase s := by
  apply Text.lowercase_of_forall
  intro c hc
  rw [Text.lowercase, String.toList_ofList] at hc
  obtain ⟨c, _, rfl⟩ := List.mem_map.mp hc
  exact Text.isUpper_toLower c

namespace HeaderName

theorem lowercase_text (n : HeaderName) : Text.lowercase n.text = n.text := by
  apply Text.lowercase_of_forall
  intro c hc
  have hvalid := n.valid
  simp only [isHeaderName, Bool.and_eq_true] at hvalid
  have htoken := List.all_eq_true.mp hvalid.2 c hc
  simpa using (Bool.and_eq_true_iff.mp htoken).2

/-- **A name is read back from its text.** -/
theorem ofString?_text (n : HeaderName) : ofString? n.text = some n := by
  have hvalid : isHeaderName (Text.lowercase n.text) = true := by
    rw [lowercase_text]
    exact n.valid
  rw [ofString?, dif_pos hvalid]
  congr 2
  exact lowercase_text n

theorem text_of_ofString? {s : String} {n : HeaderName} (h : ofString? s = some n) :
    n.text = Text.lowercase s := by
  dsimp only [ofString?] at h
  split at h
  · obtain rfl := Option.some.inj h
    rfl
  · exact absurd h (by simp)

end HeaderName

/-! ## §2. Plain texts. -/

/-- A tab, or a character of printable ASCII. -/
def isPlainChar (c : Char) : Bool := c == '\t' || (decide (32 ≤ c.toNat) && decide (c.toNat < 127))

/-- A text that can be read as a header value. -/
def isPlainText (s : String) : Bool := s.toList.all isPlainChar

theorem lt_of_isPlainByte {b : UInt8} (h : isPlainByte b = true) : b.toNat < 128 := by
  simp only [isPlainByte, Bool.or_eq_true, beq_iff_eq, Bool.and_eq_true, decide_eq_true_eq] at h
  rcases h with rfl | ⟨-, hlt⟩
  · decide
  · have hlt' : b.toNat < 127 := UInt8.lt_iff_toNat_lt.mp hlt
    omega

/-- The octets of a character are plain if the character is. -/
theorem all_isPlainByte_utf8EncodeChar (c : Char) :
    (String.utf8EncodeChar c).all isPlainByte = isPlainChar c := by
  by_cases hascii : c.toNat < 128
  · rw [Utf8.utf8EncodeChar_of_lt hascii]
    -- Below 128 an octet and its character have one number.
    have hval : (UInt8.ofNat c.toNat).toNat = c.toNat :=
      UInt8.toNat_ofNat_of_lt' (by show c.toNat < 256; omega)
    have htab : (UInt8.ofNat c.toNat = 9) ↔ c = '\t' := by
      rw [← UInt8.toNat_inj, hval, ← Char.toNat_inj]
      rfl
    rw [List.all_cons, List.all_nil, Bool.and_true, isPlainByte, isPlainChar, Bool.eq_iff_iff]
    simp only [Bool.or_eq_true, beq_iff_eq, Bool.and_eq_true, decide_eq_true_eq,
      UInt8.le_iff_toNat_le, UInt8.lt_iff_toNat_lt, hval, htab]
    rfl
  · have hbig : 128 ≤ c.toNat := Nat.not_lt.mp hascii
    have hchar : isPlainChar c = false := by
      have hne : c ≠ '\t' := by
        rintro rfl
        exact hascii (by decide)
      simp [isPlainChar, hne]
      omega
    have hlength : String.utf8EncodeChar c ≠ [] := by
      have hpos : 0 < c.utf8Size := Char.utf8Size_pos c
      intro hnil
      have := String.length_utf8EncodeChar c
      rw [hnil, List.length_nil] at this
      omega
    obtain ⟨b, bs, hbs⟩ := List.exists_cons_of_ne_nil hlength
    have hb : 128 ≤ b := Utf8.le_of_mem_utf8EncodeChar hbig (by rw [hbs]; exact List.mem_cons_self)
    have hbyte : isPlainByte b = false := by
      cases hp : isPlainByte b with
      | false => rfl
      | true =>
          have hlt := lt_of_isPlainByte hp
          have hle : 128 ≤ b.toNat := UInt8.le_iff_toNat_le.mp hb
          omega
    rw [hchar, hbs, List.all_cons, hbyte, Bool.false_and]

theorem all_isPlainByte_encode (s : String) :
    (Utf8.encode s).all isPlainByte = isPlainText s := by
  rw [Utf8.encode_eq, isPlainText, Utf8.octets, List.all_flatMap]
  congr 1
  funext c
  exact all_isPlainByte_utf8EncodeChar c

/-- Plain octets are those of the characters with their numbers. -/
theorem octets_of_isPlainByte {bs : Bytes} (h : bs.all isPlainByte = true) :
    Utf8.octets (bs.map fun b => Char.ofNat b.toNat) = bs := by
  induction bs with
  | nil => rfl
  | cons b bs ih =>
      rw [List.all_cons, Bool.and_eq_true] at h
      have hlt := lt_of_isPlainByte h.1
      have hchar : (Char.ofNat b.toNat).toNat = b.toNat := by
        rw [Char.ofNat, dif_pos (Or.inl (by omega))]
        rfl
      rw [List.map_cons, Utf8.octets_cons_of_lt (by rw [hchar]; exact hlt), ih h.2, hchar,
        UInt8.ofNat_toNat]

/-! ## §3. Values. -/

namespace HeaderValue

theorem text?_isSome (v : HeaderValue) : v.text?.isSome = v.isReadable := by
  unfold text?
  cases v.isReadable <;> rfl

theorem bytes_of_ofString? {s : String} {v : HeaderValue} (h : ofString? s = some v) :
    v.bytes = Utf8.encode s := by
  unfold ofString? ofBytes? at h
  split at h
  · obtain rfl := Option.some.inj h
    rfl
  · exact absurd h (by simp)

/-- **A value that can be read is read back.** -/
theorem ofString?_of_text? {v : HeaderValue} {s : String} (h : v.text? = some s) :
    ofString? s = some v := by
  unfold text? at h
  split at h
  · next hread =>
    obtain rfl := Option.some.inj h
    have hbytes :
        Utf8.encode (String.ofList (v.bytes.map fun b => Char.ofNat b.toNat)) = v.bytes := by
      rw [Utf8.encode_eq, String.toList_ofList]
      exact octets_of_isPlainByte hread
    rw [ofString?, hbytes, ofBytes?, dif_pos v.valid]
  · exact absurd h (by simp)

/-- **The value of a text can be read if the text is plain**, and then it is
that text. -/
theorem text?_of_ofString? {s : String} {v : HeaderValue} (h : ofString? s = some v) :
    v.text? = if isPlainText s then some s else none := by
  have hbytes := bytes_of_ofString? h
  have hread : v.isReadable = isPlainText s := by
    rw [isReadable, hbytes]
    exact all_isPlainByte_encode s
  cases ht : v.text? with
  | none =>
      have hnot : v.isReadable = false := by
        rw [← text?_isSome, ht]
        rfl
      rw [if_neg (by rw [← hread, hnot]; exact Bool.false_ne_true)]
  | some t =>
      have hyes : v.isReadable = true := by
        rw [← text?_isSome, ht]
        rfl
      -- Both texts have the octets of the value.
      have hencode : Utf8.encode t = Utf8.encode s :=
        (bytes_of_ofString? (ofString?_of_text? ht)).symm.trans hbytes
      rw [if_pos (hread.symm.trans hyes), Utf8.encode_injective hencode]

end HeaderValue

/-! ## §4. Fields. -/

namespace Headers

/-- The fields whose values can be read. -/
def readable (h : Headers) : Headers := ⟨h.fields.filter fun f => f.2.isReadable⟩

theorem values_readable (h : Headers) (n : HeaderName) :
    h.readable.values n = (h.values n).filter HeaderValue.isReadable := by
  rw [values, values, readable, List.filter_map, List.filter_filter, List.filter_filter]
  congr 1
  apply List.filter_congr
  intro f _
  exact Bool.and_comm _ _

end Headers

end Switchyard
