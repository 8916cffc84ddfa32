/-
  Switchyard.Json.Typed
  ─────────────────────
  Readers for values whose type is known: strings, numbers, arrays, pairs and
  objects, and one that passes over a value of any type.

  Where a value is of another type than the one that is read, a fault inside
  it comes first (`misfit`).
-/
import Switchyard.Json.Quoted

namespace Switchyard.Json.Reader

/-! ## §1. Single values. -/

/-- Stops at a value that is not of the type that is read. -/
def misfit {α : Type} : Reader α := do
  match ← ahead with
  | '"' =>
      let _ ← next
      let _ ← restOfText
  | 'n' => word ['n', 'u', 'l', 'l']
  | 't' => word ['t', 'r', 'u', 'e']
  | 'f' => word ['f', 'a', 'l', 's', 'e']
  | c =>
      if opensNumber c then
        let _ ← number .truncated
  fail .invalid

/-- A string. -/
def text : Reader String := do
  if (← ahead) = '"' then
    let _ ← next
    restOfText
  else misfit

/-- A string or `null`. -/
def text? : Reader (Option String) := do
  if (← ahead) = 'n' then
    word ['n', 'u', 'l', 'l']
    return none
  else some <$> text

/-- A natural number below a bound. -/
def natBelow (bound : Nat) : Reader Nat := do
  if opensNumber (← ahead) then
    match ← number .truncated with
    | some n => if 0 ≤ n ∧ n < bound then return n.toNat else fail .invalid
    | none => fail .invalid
  else misfit

/-! ## §2. Arrays. -/

/-- The items that follow the first in an array, up to its end. -/
def moreItems {α : Type} (item : Reader α) : Nat → Reader (List α)
  | 0 => fail .invalid
  | fuel + 1 => do
      match ← mark with
      | ']' => return []
      | ',' =>
          let a ← item
          return a :: (← moreItems item fuel)
      | _ => fail .invalid

/-- An array.  An octet at least is taken for every item. -/
def array {α : Type} (item : Reader α) : Reader (List α) := do
  if (← ahead) = '[' then
    let _ ← next
    if (← ahead) = ']' then
      let _ ← next
      return []
    else
      let fuel := (← get).length
      let a ← item
      return a :: (← moreItems item fuel)
  else misfit

/-- A pair, written as an array of two. -/
def pair {α β : Type} (first : Reader α) (second : Reader β) : Reader (α × β) := do
  if (← ahead) = '[' then
    let _ ← next
    let a ← first
    expect ','
    let b ← second
    expect ']'
    return (a, b)
  else misfit

/-! ## §3. Values of no interest. -/

mutual

/-- Passes over any value. -/
def skip : Nat → Reader Unit
  | 0 => fail .invalid
  | fuel + 1 => do
      match ← ahead with
      | '\x7b' =>
          let _ ← next
          if (← ahead) = '\x7d' then
            let _ ← next
          else skipMembers fuel
      | '[' =>
          let _ ← next
          if (← ahead) = ']' then
            let _ ← next
          else skipItems fuel
      | '"' => skipText
      | 'n' => word ['n', 'u', 'l', 'l']
      | 't' => word ['t', 'r', 'u', 'e']
      | 'f' => word ['f', 'a', 'l', 's', 'e']
      | c =>
          if opensNumber c then
            let _ ← number .invalid
          else fail .invalid

/-- Passes over an item and those that follow, up to the array's end. -/
def skipItems : Nat → Reader Unit
  | 0 => fail .invalid
  | fuel + 1 => do
      skip fuel
      match ← mark with
      | ']' => return ()
      | ',' => skipItems fuel
      | _ => fail .invalid

/-- Passes over a member and those that follow, up to the object's end. -/
def skipMembers : Nat → Reader Unit
  | 0 => fail .invalid
  | fuel + 1 => do
      skipText
      expect ':'
      skip fuel
      match ← mark with
      | '\x7d' => return ()
      | ',' => skipMembers fuel
      | _ => fail .invalid

end

/-- Passes over any value; an octet is passed at every second step. -/
def skipValue : Reader Unit := do skip (2 * (← get).length + 2)

/-! ## §4. Objects. -/

/-- The members from a key on, up to the object's end.  For a key and what is
known so far, `member` gives the reader of its value, or nothing if the key
cannot stand here. -/
def membersFrom {σ : Type} (member : String → σ → Option (Reader σ)) : Nat → σ → Reader σ
  | 0, _ => fail .invalid
  | fuel + 1, known => do
      expect '"'
      match member (← restOfText) known with
      | none => fail .invalid
      | some value =>
          expect ':'
          let known ← value
          match ← mark with
          | '\x7d' => return known
          | ',' => membersFrom member fuel known
          | _ => fail .invalid

/-- The members of an object behind its opening brace. -/
def members {σ : Type} (member : String → σ → Option (Reader σ)) (start : σ) : Reader σ := do
  if (← ahead) = '\x7d' then
    let _ ← next
    return start
  else membersFrom member ((← get).length) start

/-- The reader of a field that is still open; no key may come twice. -/
def once {α σ : Type} (field : Option α) (value : Reader σ) : Option (Reader σ) :=
  if field.isSome then none else some value

/-- A field that has to have been filled. -/
def need {α : Type} : Option α → Reader α
  | some a => return a
  | none => fail .invalid

end Switchyard.Json.Reader
