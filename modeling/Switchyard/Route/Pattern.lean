/-
  Switchyard.Route.Pattern
  ────────────────────────
  Path patterns and what they match.

      public/<name>/[rest]    literal, required capture, optional last capture
      [page=index]            optional capture with a default value
      <file>[ext]             required stem and optional extension
      <file>.<ext>            required stem and required extension
      favicon.[ext]           literal stem and extension

  Only the last component of a pattern may vary, so a pattern is a list of
  fixed pieces and one tail, and matching is a single pass from left to right.
-/
import Switchyard.Http.Request
import Switchyard.Text.Split

namespace Switchyard

/-! ## §1. Patterns. -/

/-- What stands for one whole component of a path, or for the stem of the last. -/
inductive Piece where
  /-- The component is this text. -/
  | literal (text : String)
  /-- The component is any non-empty text, bound to the name. -/
  | capture (name : String)
  deriving DecidableEq, Repr, Inhabited

/-- Whether an extension has to be there, and what is bound where it is not. -/
inductive Suffix where
  | required
  | optional (default? : Option String)
  deriving DecidableEq, Repr, Inhabited

/-- The end of a pattern. -/
inductive Tail where
  /-- Nothing more. -/
  | closed
  /-- At most one more component, bound to the name. -/
  | optional (name : String) (default? : Option String)
  /-- One more component: the stem, and an extension bound to the name. -/
  | extension (stem : Piece) (name : String) (suffix : Suffix)
  deriving DecidableEq, Repr, Inhabited

/-- A compiled pattern. -/
structure Pattern where
  /-- The text that the pattern was compiled from. -/
  source : String
  body : List Piece
  tail : Tail
  deriving DecidableEq, Repr, Inhabited

/-! ## §2. Matching. -/

namespace Pattern

/-- The components of a path: what its slashes separate, after one slash at
either end is dropped.  The empty path has none. -/
def components (path : String) : List String :=
  match Text.trimSlashes path.toList with
  | [] => []
  | cs => (Text.pieces '/' cs).map String.ofList

/-- A component that an optional capture takes: not empty and without a dot,
so that `name.ext` is left for an extension. -/
def isPlainName (component : String) : Bool :=
  component ≠ "" && !component.toList.contains '.'

/-- A component cut at its last dot into stem and extension.  Where one of
them would be empty there is no extension and the stem is everything. -/
def splitExtension (component : String) : String × Option String :=
  match Text.cutLast? '.' component.toList with
  | some (stem@(_ :: _), extension@(_ :: _)) =>
      (String.ofList stem, some (String.ofList extension))
  | _ => (component, none)

/-- The bindings of a piece that accepts the component. -/
def acceptPiece : Piece → String → Option Params
  | .literal text, component => if component = text then some [] else none
  | .capture name, component => if component = "" then none else some [(name, component)]

/-- A name with the value it takes, if it takes one. -/
def bindValue (name : String) (value? : Option String) : Params :=
  value?.toList.map fun value => (name, value)

/-- The bindings of a tail that accepts all the components that are left. -/
def acceptTail : Tail → List String → Option Params
  | .closed, [] => some []
  | .optional name default?, [] => some (bindValue name default?)
  | .optional name _, [component] =>
      if isPlainName component then some [(name, component)] else none
  | .extension stem name suffix, [component] =>
      let (stemText, extension?) := splitExtension component
      match suffix, extension? with
      | .required, none => none
      | .required, some extension =>
          (acceptPiece stem stemText).map (· ++ [(name, extension)])
      | .optional default?, _ =>
          (acceptPiece stem stemText).map (· ++ bindValue name (extension?.or default?))
  | _, _ => none

/-- The bindings of a body and a tail that accept the components together. -/
def accept : List Piece → Tail → List String → Option Params
  | [], tail, components => acceptTail tail components
  | _ :: _, _, [] => none
  | piece :: body, tail, component :: components => do
      let here ← acceptPiece piece component
      let there ← accept body tail components
      return here ++ there

/-- The captured values of a path that the pattern matches, in the order in
which the pattern declares them. -/
def match? (p : Pattern) (path : String) : Option Params :=
  accept p.body p.tail (components path)

end Pattern

end Switchyard
