/-
  Switchyard.Proofs.Json.Reading
  ──────────────────────────────
  Readers and printed values.  `Reads reader j a` says that the reader takes
  exactly the text of `j` and makes `a` of it, wherever a value may end.  Each
  kind of reader has one lemma that tells which values it reads.

      Reads         — a reader reads a value
      ReadsMembers  — a reader of members reads the members of an object

  Main statements:

      reads_array, reads_pair  — from the items to the whole
      reads_members            — from the members to the object
      reads_run                — a whole text
-/
import Switchyard.Proofs.Json.Scalars

namespace Switchyard.Json

open Utf8 (octets octets_append octets_cons octets_cons_of_lt)

/-! ## §1. Marks. -/

/-- A character that is one octet, and no blank. -/
def IsSolid (c : Char) : Prop := c.toNat < 128 ∧ isGap (UInt8.ofNat c.toNat) = false

instance (c : Char) : Decidable (IsSolid c) := inferInstanceAs (Decidable (_ ∧ _))

namespace Reader

theorem ahead_octets {c : Char} (h : IsSolid c) (cs : List Char) (rest : Bytes) :
    ahead (octets (c :: cs) ++ rest) = .ok (c, octets (c :: cs) ++ rest) := by
  rw [octets_cons_of_lt h.1, List.cons_append, ahead,
    List.dropWhile_cons_of_neg (by rw [h.2]; exact Bool.false_ne_true)]
  show Except.ok (sign (UInt8.ofNat c.toNat), _) = _
  rw [sign, Utf8.ofUInt8_ofNat h.1]

theorem get_eq (bs : Bytes) : (get : Reader Bytes) bs = .ok (bs, bs) := rfl

theorem next_octets {c : Char} (h : c.toNat < 128) (cs : List Char) (rest : Bytes) :
    next (octets (c :: cs) ++ rest) = .ok (c, octets cs ++ rest) := by
  rw [octets_cons_of_lt h, List.cons_append]
  show Except.ok (sign (UInt8.ofNat c.toNat), _) = _
  rw [sign, Utf8.ofUInt8_ofNat h]

theorem mark_octets {c : Char} (h : IsSolid c) (cs : List Char) (rest : Bytes) :
    mark (octets (c :: cs) ++ rest) = .ok (c, octets cs ++ rest) := by
  rw [mark, bind_of_ok (ahead_octets h cs rest)]
  exact next_octets h.1 cs rest

theorem expect_octets {c : Char} (h : IsSolid c) (cs : List Char) (rest : Bytes) :
    expect c (octets (c :: cs) ++ rest) = .ok ((), octets cs ++ rest) := by
  rw [expect, bind_of_ok (mark_octets h cs rest), if_neg (by simp)]
  rfl

end Reader

theorem ends_nil : Ends [] := by
  intro b hb
  simp at hb

theorem ends_octets {c : Char} (h : c = ',' ∨ c = ']' ∨ c = '\x7d') (cs : List Char)
    (rest : Bytes) : Ends (octets (c :: cs) ++ rest) := by
  have hascii : c.toNat < 128 := by
    rcases h with rfl | rfl | rfl <;> decide
  intro b hb
  rw [octets_cons_of_lt hascii] at hb
  obtain rfl : UInt8.ofNat c.toNat = b := by simpa using hb
  rw [sign, Utf8.ofUInt8_ofNat hascii]
  exact h

/-! ## §2. How the text of a value begins. -/

/-- No value begins with a blank or with a bracket that closes. -/
theorem chars_eq_cons (j : Json) :
    ∃ c cs, j.chars = c :: cs ∧ IsSolid c ∧ c ≠ ']' ∧ c ≠ '\x7d' := by
  cases j with
  | null => exact ⟨'n', _, rfl, by decide⟩
  | bool b =>
      cases b with
      | true => exact ⟨'t', _, rfl, by decide⟩
      | false => exact ⟨'f', _, rfl, by decide⟩
  | number n =>
      show ∃ c cs, integerChars n = c :: cs ∧ _
      unfold integerChars
      split
      · exact ⟨'-', _, rfl, by decide⟩
      · cases hds : Nat.toDigits 10 n.natAbs with
        | nil => exact absurd hds Nat.toDigits_ne_nil
        | cons d ds =>
            have hd : d ∈ Nat.toDigits 10 n.natAbs := by rw [hds]; exact List.mem_cons_self
            have hbounds := toNat_of_isDigit (isDigit_toDigits hd)
            have hascii : d.toNat < 128 := by omega
            refine ⟨d, ds, rfl, ⟨hascii, ?_⟩, ?_, ?_⟩
            · -- Every blank has a number below those of the digits.
              have hne : ∀ c : Char, c.toNat < 48 → d ≠ c := by
                rintro c hc rfl
                omega
              simp only [isGap, sign, Utf8.ofUInt8_ofNat hascii, Bool.or_eq_false_iff,
                decide_eq_false_iff_not]
              exact ⟨⟨⟨hne _ (by decide), hne _ (by decide)⟩, hne _ (by decide)⟩,
                hne _ (by decide)⟩
            · rintro rfl
              exact absurd hbounds (by decide)
            · rintro rfl
              exact absurd hbounds (by decide)
  | text s => exact ⟨'"', _, rfl, by decide⟩
  | array items => exact ⟨'[', _, rfl, by decide⟩
  | object members => exact ⟨'\x7b', _, rfl, by decide⟩

/-! ## §3. Single values. -/

namespace Reader

/-- The reader takes exactly the text of the value, and makes `a` of it. -/
def Reads {α : Type} (reader : Reader α) (j : Json) (a : α) : Prop :=
  ∀ rest, Ends rest → reader (octets j.chars ++ rest) = .ok (a, rest)

/-- A value that is read can be made into something else. -/
theorem Reads.map {α β : Type} {reader : Reader α} {j : Json} {a : α} (h : Reads reader j a)
    (f : α → β) : Reads (reader >>= fun a => pure (f a)) j (f a) := by
  intro rest hrest
  rw [bind_of_ok (h rest hrest)]
  rfl

theorem reads_text (s : String) : Reads text (.text s) s := by
  intro rest _
  show text (octets ('"' :: (s.toList.flatMap escaped ++ ['"'])) ++ rest) = _
  rw [text, bind_of_ok (ahead_octets (by decide) _ _), if_pos rfl,
    bind_of_ok (next_octets (by decide) _ _)]
  exact restOfText_quoted s rest

theorem reads_optionalText (s? : Option String) : Reads text? (optionalText s?) s? := by
  cases s? with
  | none =>
      intro rest _
      show text? (octets ('n' :: ['u', 'l', 'l']) ++ rest) = _
      rw [text?, bind_of_ok (ahead_octets (by decide) _ _), if_pos rfl]
      rfl
  | some s =>
      intro rest hrest
      have hahead : ahead (octets (Json.text s).chars ++ rest)
          = .ok ('"', octets (Json.text s).chars ++ rest) := ahead_octets (by decide) _ _
      show text? (octets (Json.text s).chars ++ rest) = _
      rw [text?, bind_of_ok hahead, if_neg (by decide)]
      exact map_of_ok (reads_text s rest hrest)

theorem reads_natBelow {n bound : Nat} (h : n < bound) :
    Reads (natBelow bound) (.number n) n := by
  intro rest hrest
  have hchars : (Json.number n).chars = Nat.toDigits 10 n := by
    show integerChars n = _
    rw [integerChars, if_neg (by omega)]
    rfl
  have hread : number .truncated (octets (Json.number n).chars ++ rest) = .ok (some n, rest) := by
    rw [hchars]
    exact number_toDigits n _ hrest
  cases hds : Nat.toDigits 10 n with
  | nil => exact absurd hds Nat.toDigits_ne_nil
  | cons d ds =>
      obtain ⟨c, cs, hcs, hsolid, -⟩ := chars_eq_cons (.number n)
      rw [hcs] at hread ⊢
      -- The text begins with a digit, so the reader takes it for a number.
      have hc : opensNumber c = true := by
        obtain ⟨rfl, rfl⟩ : d = c ∧ ds = cs :=
          List.cons.inj (hds.symm.trans (hchars.symm.trans hcs))
        have hd : d ∈ Nat.toDigits 10 n := by rw [hds]; exact List.mem_cons_self
        have hdigit : d.isDigit = true := isDigit_toDigits hd
        simp [opensNumber, hdigit]
      rw [natBelow, bind_of_ok (ahead_octets hsolid cs rest), if_pos hc, bind_of_ok hread]
      show (if 0 ≤ (n : Int) ∧ (n : Int) < bound then _ else _ : Reader Nat) rest = _
      rw [if_pos ⟨Int.natCast_nonneg n, Int.ofNat_lt.mpr h⟩]
      rfl

/-! ## §4. Arrays and pairs. -/

theorem itemChars_cons (j : Json) (js : List Json) :
    itemChars true (j :: js) = j.chars ++ itemChars false js := rfl

theorem itemChars_false_cons (j : Json) (js : List Json) :
    itemChars false (j :: js) = ',' :: itemChars true (j :: js) := rfl

/-- An item ends where the next one or the array's end follows. -/
theorem ends_itemChars (js : List Json) (rest : Bytes) :
    Ends (octets (itemChars false js) ++ rest) := by
  cases js with
  | nil => exact ends_octets (by simp) _ _
  | cons j js => exact ends_octets (by simp) _ _

theorem length_le_itemChars (js : List Json) : js.length < (itemChars false js).length := by
  induction js with
  | nil => exact Nat.zero_lt_one
  | cons j js ih =>
      rw [itemChars_false_cons, itemChars_cons, List.length_cons, List.length_cons,
        List.length_append]
      omega

variable {α β : Type}

theorem moreItems_itemChars {item : Reader α} {f : α → Json} {as : List α} {fuel : Nat}
    (h : ∀ a ∈ as, Reads item (f a) a) (hfuel : as.length < fuel) (rest : Bytes) :
    moreItems item fuel (octets (itemChars false (as.map f)) ++ rest) = .ok (as, rest) := by
  induction as generalizing fuel with
  | nil =>
      cases fuel with
      | zero => exact absurd hfuel (Nat.not_lt_zero _)
      | succ fuel =>
          show moreItems item (fuel + 1) (octets (']' :: []) ++ rest) = _
          rw [moreItems, bind_of_ok (mark_octets (by decide) _ _)]
          rfl
  | cons a as ih =>
      cases fuel with
      | zero => exact absurd hfuel (Nat.not_lt_zero _)
      | succ fuel =>
          have hitem := h a List.mem_cons_self _ (ends_itemChars (as.map f) rest)
          have hmore := ih (fun a' ha' => h a' (List.mem_cons_of_mem _ ha'))
            (Nat.lt_of_succ_lt_succ hfuel)
          rw [List.map_cons, itemChars_false_cons, moreItems,
            bind_of_ok (mark_octets (by decide) _ _)]
          show (item >>= _) (octets (itemChars true (f a :: as.map f)) ++ rest) = _
          rw [itemChars_cons, octets_append, List.append_assoc, bind_of_ok hitem, bind_of_ok hmore]
          rfl

/-- **An array is read** if its items are. -/
theorem reads_array {item : Reader α} {f : α → Json} {as : List α}
    (h : ∀ a ∈ as, Reads item (f a) a) : Reads (array item) (.array (as.map f)) as := by
  intro rest _
  show array item (octets ('[' :: itemChars true (as.map f)) ++ rest) = _
  rw [array, bind_of_ok (ahead_octets (by decide) _ _), if_pos rfl,
    bind_of_ok (next_octets (by decide) _ _)]
  cases as with
  | nil =>
      show (ahead >>= _) (octets (']' :: []) ++ rest) = _
      rw [bind_of_ok (ahead_octets (by decide) _ _), if_pos rfl,
        bind_of_ok (next_octets (by decide) _ _)]
      rfl
  | cons a as =>
      obtain ⟨c, cs, hcs, hsolid, hclose, -⟩ := chars_eq_cons (f a)
      rw [List.map_cons, itemChars_cons]
      have hahead : ahead (octets ((f a).chars ++ itemChars false (as.map f)) ++ rest)
          = .ok (c, octets ((f a).chars ++ itemChars false (as.map f)) ++ rest) := by
        rw [hcs]
        exact ahead_octets hsolid _ _
      -- The octets that are left are more than the items.
      have hfuel : as.length
          < (octets ((f a).chars ++ itemChars false (as.map f)) ++ rest).length := by
        have hitems := length_le_itemChars (as.map f)
        have hoctets := Utf8.length_le_octets (itemChars false (as.map f))
        rw [List.length_map] at hitems
        rw [octets_append, List.length_append, List.length_append]
        omega
      have hitem := h a List.mem_cons_self _ (ends_itemChars (as.map f) rest)
      have hmore := moreItems_itemChars (fun a' ha' => h a' (List.mem_cons_of_mem _ ha')) hfuel rest
      rw [bind_of_ok hahead, if_neg hclose, bind_of_ok (get_eq _)]
      rw [octets_append, List.append_assoc] at hmore ⊢
      rw [bind_of_ok hitem, bind_of_ok hmore]
      rfl

/-- **A pair is read** if both sides are. -/
theorem reads_pair {first : Reader α} {second : Reader β} {j k : Json} {a : α} {b : β}
    (hj : Reads first j a) (hk : Reads second k b) :
    Reads (pair first second) (.array [j, k]) (a, b) := by
  intro rest _
  have hfirst := hj (octets (',' :: (k.chars ++ [']'])) ++ rest) (ends_octets (by simp) _ _)
  have hsecond := hk (octets (']' :: []) ++ rest) (ends_octets (by simp) _ _)
  show pair first second (octets ('[' :: (j.chars ++ ',' :: (k.chars ++ [']']))) ++ rest) = _
  rw [pair, bind_of_ok (ahead_octets (by decide) _ _), if_pos rfl,
    bind_of_ok (next_octets (by decide) _ _), octets_append, List.append_assoc, bind_of_ok hfirst,
    bind_of_ok (expect_octets (by decide) _ _), octets_append, List.append_assoc,
    bind_of_ok hsecond, bind_of_ok (expect_octets (by decide) _ _)]
  rfl

/-! ## §5. Objects. -/

/-- The members of an object, read one after the other: from what is known to
what is known in the end. -/
inductive ReadsMembers {σ : Type} (member : String → σ → Option (Reader σ)) :
    σ → List (String × Json) → σ → Prop where
  | nil (known : σ) : ReadsMembers member known [] known
  | cons {known known' final : σ} {key : String} {j : Json} {members : List (String × Json)}
      {value : Reader σ} (isOpen : member key known = some value) (reads : Reads value j known')
      (more : ReadsMembers member known' members final) :
      ReadsMembers member known ((key, j) :: members) final

theorem memberChars_cons (key : String) (j : Json) (members : List (String × Json)) :
    memberChars true ((key, j) :: members)
      = '"' :: ((key.toList.flatMap escaped ++ ['"'])
        ++ ':' :: (j.chars ++ memberChars false members)) := by
  simp [memberChars, quotedChars]

theorem memberChars_false_cons (p : String × Json) (members : List (String × Json)) :
    memberChars false (p :: members) = ',' :: memberChars true (p :: members) := by
  obtain ⟨key, j⟩ := p
  simp [memberChars]

theorem ends_memberChars (members : List (String × Json)) (rest : Bytes) :
    Ends (octets (memberChars false members) ++ rest) := by
  cases members with
  | nil => exact ends_octets (by simp) _ _
  | cons p members =>
      rw [memberChars_false_cons]
      exact ends_octets (by simp) _ _

theorem length_le_memberChars (members : List (String × Json)) :
    members.length ≤ (memberChars true members).length := by
  induction members with
  | nil => exact Nat.zero_le _
  | cons p members ih =>
      obtain ⟨key, j⟩ := p
      have hmore : (memberChars true members).length ≤ (memberChars false members).length := by
        cases members with
        | nil => exact Nat.le_refl _
        | cons q members =>
            rw [memberChars_false_cons]
            exact Nat.le_succ _
      rw [memberChars_cons]
      simp only [List.length_cons, List.length_append]
      omega

variable {σ : Type} {member : String → σ → Option (Reader σ)}

/-- One member is read up to the mark behind its value. -/
theorem membersFrom_succ {known known' : σ} {key : String} {j : Json} {value : Reader σ}
    (isOpen : member key known = some value) (reads : Reads value j known') (fuel : Nat)
    (members : List (String × Json)) (rest : Bytes) :
    membersFrom member (fuel + 1) known (octets (memberChars true ((key, j) :: members)) ++ rest)
      = (mark >>= fun c => match c with
          | '\x7d' => pure known'
          | ',' => membersFrom member fuel known'
          | _ => fail .invalid) (octets (memberChars false members) ++ rest) := by
  have hvalue := reads (octets (memberChars false members) ++ rest) (ends_memberChars members rest)
  rw [memberChars_cons, membersFrom, bind_of_ok (expect_octets (by decide) _ _), octets_append,
    List.append_assoc, bind_of_ok (restOfText_quoted key _), isOpen]
  show (expect ':' >>= _) _ = _
  rw [bind_of_ok (expect_octets (by decide) _ _), octets_append, List.append_assoc]
  exact bind_of_ok hvalue

theorem membersFrom_memberChars {p : String × Json} {members : List (String × Json)}
    {known final : σ} {fuel : Nat} (h : ReadsMembers member known (p :: members) final)
    (hfuel : members.length < fuel) (rest : Bytes) :
    membersFrom member fuel known (octets (memberChars true (p :: members)) ++ rest)
      = .ok (final, rest) := by
  induction members generalizing p known fuel with
  | nil =>
      obtain ⟨fuel, rfl⟩ : ∃ n, fuel = n + 1 := Nat.exists_eq_succ_of_ne_zero (by omega)
      cases h with
      | cons isOpen reads more =>
          cases more
          rw [membersFrom_succ isOpen reads]
          show (mark >>= _) (octets ('\x7d' :: []) ++ rest) = _
          rw [bind_of_ok (mark_octets (by decide) _ _)]
          rfl
  | cons q members ih =>
      obtain ⟨fuel, rfl⟩ : ∃ n, fuel = n + 1 := Nat.exists_eq_succ_of_ne_zero (by omega)
      cases h with
      | cons isOpen reads more =>
          rw [membersFrom_succ isOpen reads, memberChars_false_cons,
            bind_of_ok (mark_octets (by decide) _ _)]
          exact ih more (Nat.lt_of_succ_lt_succ hfuel)

/-- **The members of an object are read** up to its end. -/
theorem reads_members {start final : σ} {ms : List (String × Json)}
    (h : ReadsMembers member start ms final) (rest : Bytes) :
    members member start (octets (memberChars true ms) ++ rest) = .ok (final, rest) := by
  cases ms with
  | nil =>
      cases h
      show members member start (octets ('\x7d' :: []) ++ rest) = _
      rw [members, bind_of_ok (ahead_octets (by decide) _ _), if_pos rfl,
        bind_of_ok (next_octets (by decide) _ _)]
      rfl
  | cons p ms =>
      -- Each member has an octet at least, so what is left is fuel enough.
      have hlength : ms.length < (octets (memberChars true (p :: ms)) ++ rest).length := by
        have hmembers := length_le_memberChars (p :: ms)
        have hoctets := Utf8.length_le_octets (memberChars true (p :: ms))
        rw [List.length_cons] at hmembers
        rw [List.length_append]
        omega
      have hfrom := membersFrom_memberChars h hlength rest
      have hahead : ahead (octets (memberChars true (p :: ms)) ++ rest)
          = .ok ('"', octets (memberChars true (p :: ms)) ++ rest) := by
        rw [memberChars_cons p.1 p.2 ms]
        exact ahead_octets (by decide) _ _
      rw [members, bind_of_ok hahead, if_neg (by decide), bind_of_ok (get_eq _)]
      exact hfrom

/-! ## §6. Whole texts. -/

/-- What is read of a value is what is read of a text that holds nothing else. -/
theorem reads_run {reader : Reader α} {j : Json} {a : α} (h : Reads reader j a) :
    reader.run (Utf8.encode j.print) = .ok a := by
  have hread := h [] ends_nil
  rw [List.append_nil] at hread
  rw [run, Utf8.encode_eq, print, String.toList_ofList, hread]
  rfl

end Reader

end Switchyard.Json
