/-
  Switchyard.Route.Table
  ──────────────────────
  An ordered table of bindings.  The first binding that accepts a request
  answers it, so precedence is the order of registration.  A table is a value:
  whoever keeps one keeps resolving with it, whatever is registered later.

  Main statements:

      register_ok_iff   — a binding is appended exactly if its name is new
      resolve?_append   — a later binding answers only what none before it does
-/
import Switchyard.Route.Binding

namespace Switchyard

/-- Why a binding is refused. -/
inductive RouteError where
  | pattern (error : PatternError)
  | duplicateName (name : String)
  deriving DecidableEq, Repr

def RouteError.message : RouteError → String
  | .pattern error => error.message
  | .duplicateName name => s!"a binding named `{name}` is already registered"

structure RouteTable (η : Type) where
  bindings : List (Binding η)

namespace RouteTable

variable {η : Type}

def empty : RouteTable η := ⟨[]⟩

instance : Inhabited (RouteTable η) := ⟨empty⟩

def size (t : RouteTable η) : Nat := t.bindings.length

/-- The names of the bindings, in order. -/
def names (t : RouteTable η) : List String := t.bindings.map Binding.name

/-- The table with one more binding at its end, if the name is not taken. -/
def register (t : RouteTable η) (b : Binding η) : Except RouteError (RouteTable η) :=
  if b.name ∈ t.names then .error (.duplicateName b.name) else .ok ⟨t.bindings ++ [b]⟩

/-- The first name in a list that stands in front of itself already. -/
def firstRepeat? (seen : List String) : List String → Option String
  | [] => none
  | name :: names => if name ∈ seen then some name else firstRepeat? (name :: seen) names

/-- A table of exactly the given bindings, if no two of them share a name. -/
def ofBindings (bs : List (Binding η)) : Except RouteError (RouteTable η) :=
  match firstRepeat? [] (bs.map Binding.name) with
  | some name => .error (.duplicateName name)
  | none => .ok ⟨bs⟩

/-- The captures of a binding that accepts the request. -/
def accepts? (b : Binding η) (method : Method) (path : String) : Option Params :=
  if b.methods.allows method then b.pattern.match? path else none

/-- The first binding that accepts the request, and what it captures. -/
def resolve? (t : RouteTable η) (method : Method) (path : String) :
    Option (Binding η × Params) :=
  t.bindings.findSome? fun b => (accepts? b method path).map (b, ·)

theorem register_ok_iff {t t' : RouteTable η} {b : Binding η} :
    t.register b = .ok t' ↔ b.name ∉ t.names ∧ t' = ⟨t.bindings ++ [b]⟩ := by
  by_cases h : b.name ∈ t.names
  · simp [register, h]
  · simp [register, h, eq_comm]

theorem resolve?_append (t : RouteTable η) (b : Binding η) (method : Method) (path : String) :
    (⟨t.bindings ++ [b]⟩ : RouteTable η).resolve? method path
      = (t.resolve? method path).or ((accepts? b method path).map (b, ·)) := by
  simp [resolve?, List.findSome?_append]

end RouteTable

end Switchyard
