/-
  Switchyard.Proofs.Http.Building
  ───────────────────────────────
  The headers of a response through the steps of building it.  A step sets a name
  to one value, or adds a collection of headers; and adding is not what it is
  called, since the values of the collection take the place of what the name had.
  So of all that a name is given since it was set last, only the last part is kept.

      Step      — to set a header or the content type, to add headers
      given     — what a name is given since it was set last, in parts
      lastPart  — the last part that has any values

  Main statements:

      values_build      — the last part is kept
      keeps_headers_iff — when nothing is lost
-/
import Mathlib.Data.List.DropRight
import Switchyard.Http.Response
import Switchyard.Proofs.Http.HeaderText

namespace Switchyard.Response

variable {α : Type} {n : HeaderName}

/-! ## §1. Steps. -/

/-- One step of building a response.  A content type is a text that can be read
back from its header. -/
inductive Step where
  | header (name : HeaderName) (value : HeaderValue)
  | contentType (text : String) (plain : isPlainText text = true)
  | headers (added : Headers)

namespace Step

/-- The value that a step sets a name to. -/
def sets? (n : HeaderName) : Step → Option HeaderValue
  | .header name value => if name = n then some value else none
  | .contentType text _ => if .contentType = n then some (.ofString text) else none
  | .headers _ => none

/-- The values that a step adds to a name. -/
def adds (n : HeaderName) : Step → List HeaderValue
  | .headers added => added.values n
  | _ => []

end Step

def apply (r : Response) : Step → Response
  | .header name value => r.withHeader name value
  | .contentType text _ => r.withContentType text
  | .headers added => r.withHeaders added

/-- The response after some steps, one after the other. -/
def build (r : Response) (steps : List Step) : Response := steps.foldl apply r

theorem build_concat (r : Response) (steps : List Step) (s : Step) :
    r.build (steps ++ [s]) = (r.build steps).apply s :=
  List.foldl_concat ..

/-- What a step sets a name to is its only value, and what it adds takes the place
of the values that the name had. -/
theorem values_apply (r : Response) (s : Step) (n : HeaderName) :
    (r.apply s).headers.values n
      = match s.sets? n with
        | some v => [v]
        | none => if s.adds n = [] then r.headers.values n else s.adds n := by
  have hset (name : HeaderName) (value : HeaderValue) :
      (r.headers.set name value).values n
        = match if name = n then some value else none with
          | some v => [v]
          | none => r.headers.values n := by
    rw [Headers.values_set]
    split <;> rfl
  cases s with
  | header name value => exact hset name value
  | contentType text plain => exact hset .contentType (.ofString text)
  | headers added => exact Headers.values_override r.headers added n

/-! ## §2. What a name is given. -/

/-- The steps behind the last one that sets a name. -/
def sinceSet (n : HeaderName) (steps : List Step) : List Step :=
  steps.rtakeWhile fun s => (s.sets? n).isNone

/-- The value that a name was set to last, or else those that it had at first. -/
def base (r : Response) (steps : List Step) (n : HeaderName) : List HeaderValue :=
  match (steps.filterMap (Step.sets? n)).getLast? with
  | some v => [v]
  | none => r.headers.values n

/-- What a name is given since it was set last, in parts: what it has then, and
the values that each later step adds. -/
def given (r : Response) (steps : List Step) (n : HeaderName) : List (List HeaderValue) :=
  r.base steps n :: (sinceSet n steps).map (Step.adds n)

theorem given_concat_of_some {s : Step} {v : HeaderValue} (h : s.sets? n = some v)
    (r : Response) (steps : List Step) : r.given (steps ++ [s]) n = [[v]] := by
  have hsince : sinceSet n (steps ++ [s]) = [] := by
    rw [sinceSet, List.rtakeWhile_concat_neg _ _ _ (by simp [h])]
  rw [given, hsince, base, List.filterMap_append, List.filterMap_cons_some h]
  simp

theorem given_concat_of_none {s : Step} (h : s.sets? n = none) (r : Response)
    (steps : List Step) : r.given (steps ++ [s]) n = r.given steps n ++ [s.adds n] := by
  have hsince : sinceSet n (steps ++ [s]) = sinceSet n steps ++ [s] := by
    rw [sinceSet, List.rtakeWhile_concat_pos _ _ _ (by simp [h])]
    rfl
  have hbase : r.base (steps ++ [s]) n = r.base steps n := by
    rw [base, List.filterMap_append, List.filterMap_cons_none h, List.filterMap_nil,
      List.append_nil]
    rfl
  rw [given, hsince, hbase, List.map_append]
  rfl

/-! ## §3. Parts. -/

/-- The last part that is not empty. -/
def lastPart (parts : List (List α)) : List α := (parts.filter (· ≠ [])).getLast?.getD []

theorem lastPart_singleton (part : List α) : lastPart [part] = part := by
  by_cases h : part = [] <;> simp [lastPart, h]

theorem lastPart_concat (parts : List (List α)) (part : List α) :
    lastPart (parts ++ [part]) = if part = [] then lastPart parts else part := by
  by_cases h : part = [] <;> simp [lastPart, List.filter_append, h]

/-- The last part is all there is exactly if no other part has any values. -/
theorem lastPart_eq_flatten_iff (parts : List (List α)) :
    lastPart parts = parts.flatten ↔ (parts.filter (· ≠ [])).length ≤ 1 := by
  have hne : ∀ part ∈ parts.filter (· ≠ []), part ≠ [] := fun part h => by
    simpa using (List.mem_filter.mp h).2
  have hflatten : parts.flatten = (parts.filter (· ≠ [])).flatten := by
    rw [List.flatten_filter_ne_nil]
  rw [lastPart, hflatten]
  -- From here on no part is empty.
  generalize parts.filter (· ≠ []) = parts at hne ⊢
  rcases List.eq_nil_or_concat parts with rfl | ⟨others, last, rfl⟩
  · simp
  · rw [List.concat_eq_append, List.getLast?_concat, Option.getD_some, List.flatten_concat]
    -- The others have values, so they are lost unless there are none.
    have hothers : others.flatten = [] ↔ others = [] := by
      constructor
      · intro hnone
        refine List.eq_nil_iff_forall_not_mem.mpr fun part hpart => ?_
        exact hne part (by simp [hpart]) (List.flatten_eq_nil_iff.mp hnone part hpart)
      · rintro rfl
        rfl
    rw [List.self_eq_append_left, hothers, ← List.length_eq_zero_iff, List.length_append,
      List.length_singleton]
    omega

/-- **Of all that a name is given, the last part is kept.** -/
theorem values_build (r : Response) (steps : List Step) (n : HeaderName) :
    (r.build steps).headers.values n = lastPart (r.given steps n) := by
  -- From behind, since the last step decides where the parts begin.
  induction steps using List.reverseRecOn with
  | nil => exact (lastPart_singleton _).symm
  | append_singleton steps s ih =>
      rw [build_concat, values_apply]
      cases hs : s.sets? n with
      | some v => rw [given_concat_of_some hs, lastPart_singleton]
      | none => rw [given_concat_of_none hs, lastPart_concat, ih]

/-- **When a response keeps what it is given.**  Through any steps a name ends up
with the value that it was set to last, or else with those that it had at first,
and behind them all values that later steps add, exactly if at most one of these
parts has any values.  Where more of them have, the last one is all that is kept. -/
theorem keeps_headers_iff (r : Response) (steps : List Step) (n : HeaderName) :
    (r.build steps).headers.values n = lastPart (r.given steps n)
      ∧ ((r.build steps).headers.values n
            = r.base steps n ++ (sinceSet n steps).flatMap (Step.adds n)
          ↔ ((r.given steps n).filter (· ≠ [])).length ≤ 1) := by
  have hgiven : (r.given steps n).flatten
      = r.base steps n ++ (sinceSet n steps).flatMap (Step.adds n) := by
    rw [given, List.flatten_cons, List.flatMap_def]
  refine ⟨r.values_build steps n, ?_⟩
  rw [values_build, ← hgiven]
  exact lastPart_eq_flatten_iff _

def cookie : HeaderName := { text := "set-cookie" }

/-- A cookie is set, and headers with another one are added: the first is lost. -/
theorem first_cookie_lost :
    let steps : List Step :=
      [.header cookie (.ofString "a=1"), .headers ⟨[(cookie, .ofString "b=2")]⟩]
    ((Response.new .ok []).build steps).headers.values cookie = [.ofString "b=2"]
      ∧ (Response.new .ok []).base steps cookie ++ (sinceSet cookie steps).flatMap (Step.adds cookie)
        = [.ofString "a=1", .ofString "b=2"]
      ∧ HeaderName.ofString? "Set-Cookie" = some cookie := by
  decide +kernel

end Switchyard.Response
