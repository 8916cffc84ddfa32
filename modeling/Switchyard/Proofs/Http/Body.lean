/-
  Switchyard.Proofs.Http.Body
  ───────────────────────────
  What becomes of a body.  It is read if all of it arrives and is within the
  limit; it is too long if what arrives up to some point is over the limit,
  whatever comes then; and it fails with the error that it breaks off with if it
  does so before that.

      BodyError.chain — an error and all that is behind it

  Main statements:

      BodyError.isLengthLimit_iff — the whole chain is searched
      readBody_append — what arrives first, and what comes behind it
      readBody_data   — a body that arrives whole
      readBody_cases
-/
import Switchyard.Http.Request

namespace Switchyard

/-! ## §1. What is behind an error. -/

namespace BodyError

/-- The error, what it comes from, and so on. -/
def chain : BodyError → List BodyError
  | .lengthLimit => [.lengthLimit]
  | .other => [.other]
  | .causedBy source => .causedBy source :: source.chain

/-- **A limit on the length is found wherever in the chain it stands.** -/
theorem isLengthLimit_iff (error : BodyError) :
    error.isLengthLimit = true ↔ .lengthLimit ∈ error.chain := by
  induction error with
  | lengthLimit => exact ⟨fun _ => List.mem_singleton_self _, fun _ => rfl⟩
  | other => simp [isLengthLimit, chain]
  | causedBy source ih =>
      rw [isLengthLimit, ih, chain, List.mem_cons]
      exact ⟨.inr, fun h => h.resolve_left (by simp)⟩

end BodyError

/-! ## §2. Reading. -/

/-- What arrives first counts against the limit, and the rest has to keep to what
is left of it. -/
theorem readBody_append (limit : Nat) (pieces : List Bytes) (rest : List Chunk) :
    readBody limit (pieces.map .data ++ rest)
      = if limit < pieces.flatten.length then .error .lengthLimit
        else (readBody (limit - pieces.flatten.length) rest).map (pieces.flatten ++ ·) := by
  induction pieces generalizing limit with
  | nil =>
      show readBody limit rest = (readBody limit rest).map fun body => body
      cases readBody limit rest <;> rfl
  | cons piece pieces ih =>
      rw [List.map_cons, List.cons_append, readBody, ih, List.flatten_cons, List.length_append]
      by_cases hlong : limit < piece.length
      · rw [if_pos hlong, if_pos (by omega)]
      · rw [if_neg hlong]
        by_cases hover : limit - piece.length < pieces.flatten.length
        · rw [if_pos hover, if_pos (by omega)]
          rfl
        · rw [if_neg hover, if_neg (by omega), Nat.sub_add_eq]
          cases readBody (limit - piece.length - pieces.flatten.length) rest with
          | error e => rfl
          | ok body => exact congrArg Except.ok (List.append_assoc _ _ _).symm

/-- A body that arrives whole is read if it is within the limit. -/
theorem readBody_data (limit : Nat) (pieces : List Bytes) :
    readBody limit (pieces.map .data)
      = if pieces.flatten.length ≤ limit then .ok pieces.flatten else .error .lengthLimit := by
  have happend := readBody_append limit pieces []
  rw [List.append_nil] at happend
  rw [happend]
  by_cases hover : limit < pieces.flatten.length
  · rw [if_pos hover, if_neg (by omega)]
  · rw [if_neg hover, if_pos (by omega)]
    exact congrArg Except.ok (List.append_nil _)

/-- A body arrives in pieces, and all of it does or it breaks off behind them. -/
theorem exists_pieces (chunks : List Chunk) :
    ∃ pieces : List Bytes, chunks = pieces.map .data
      ∨ ∃ error rest, chunks = pieces.map .data ++ .broken error :: rest := by
  induction chunks with
  | nil => exact ⟨[], .inl rfl⟩
  | cons chunk chunks ih =>
      cases chunk with
      | broken error => exact ⟨[], .inr ⟨error, chunks, rfl⟩⟩
      | data piece =>
          obtain ⟨pieces, rfl | ⟨error, rest, rfl⟩⟩ := ih
          · exact ⟨piece :: pieces, .inl rfl⟩
          · exact ⟨piece :: pieces, .inr ⟨error, rest, rfl⟩⟩

/-- **All that can become of a body.** -/
theorem readBody_cases (limit : Nat) (chunks : List Chunk) :
    (∃ pieces : List Bytes, chunks = pieces.map .data ∧ pieces.flatten.length ≤ limit
        ∧ readBody limit chunks = .ok pieces.flatten)
      ∨ (∃ (pieces : List Bytes) (rest : List Chunk), chunks = pieces.map .data ++ rest
        ∧ limit < pieces.flatten.length ∧ readBody limit chunks = .error .lengthLimit)
      ∨ (∃ (pieces : List Bytes) (error : BodyError) (rest : List Chunk),
        chunks = pieces.map .data ++ .broken error :: rest
        ∧ pieces.flatten.length ≤ limit ∧ readBody limit chunks = .error error) := by
  obtain ⟨pieces, rfl | ⟨error, rest, rfl⟩⟩ := exists_pieces chunks
  · by_cases hfits : pieces.flatten.length ≤ limit
    · exact .inl ⟨pieces, rfl, hfits, by rw [readBody_data, if_pos hfits]⟩
    · refine .inr (.inl ⟨pieces, [], (List.append_nil _).symm, by omega, ?_⟩)
      rw [readBody_data, if_neg hfits]
  · by_cases hover : limit < pieces.flatten.length
    · exact .inr (.inl ⟨pieces, _, rfl, hover, by rw [readBody_append, if_pos hover]⟩)
    · -- The limit is kept up to the break, so the error is what is met.
      refine .inr (.inr ⟨pieces, error, rest, rfl, by omega, ?_⟩)
      rw [readBody_append, if_neg hover]
      rfl

end Switchyard
