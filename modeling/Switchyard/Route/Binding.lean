/-
  Switchyard.Route.Binding
  ────────────────────────
  A binding ties a pattern to a handler: which methods it takes, whether its
  answers may be cached, and the name that it is known by.  The handler is any
  type `η`; what it does is decided where requests are dispatched.
-/
import Switchyard.Route.Compile
import Switchyard.Text.Quoted

namespace Switchyard

/-- Which request methods a binding accepts. -/
inductive MethodFilter where
  | any
  | only (method : Method)
  deriving DecidableEq, Repr, Inhabited

namespace MethodFilter

/-- Whether a method is accepted.  `HEAD` is accepted wherever `GET` is. -/
def allows : MethodFilter → Method → Bool
  | .any, _ => true
  | .only expected, method => expected = method ∨ (expected = .get ∧ method = .head)

/-- The filter as text: a star for any method. -/
def label : MethodFilter → String
  | .any => "*"
  | .only method => method.token

end MethodFilter

@[ext]
structure Binding (η : Type) where
  pattern : Pattern
  handler : η
  methods : MethodFilter
  cacheable : Bool
  /-- The identity of a binding: unique in a route table, and part of the key
  of every cached answer. -/
  name : String
  /-- Whether the name was given, and so does not follow the methods. -/
  isNamed : Bool

namespace Binding

variable {η : Type}

/-- The name of a binding that was given none: its methods and its pattern's
text, with exactly one slash in front. -/
def defaultName (methods : MethodFilter) (pattern : Pattern) : String :=
  methods.label ++ " /" ++ String.ofList (pattern.source.toList.dropWhile (· = '/'))

/-- A binding for every method whose answers are not cached. -/
def new (pattern : Pattern) (handler : η) : Binding η :=
  { pattern, handler, methods := .any, cacheable := false,
    name := defaultName .any pattern, isNamed := false }

/-- The binding under a name of its own. -/
def withName (b : Binding η) (name : String) : Binding η := { b with name, isNamed := true }

/-- The binding for one method only.  It gets another name if it was given none. -/
def withMethod (b : Binding η) (method : Method) : Binding η :=
  { b with
    methods := .only method
    name := if b.isNamed then b.name else defaultName (.only method) b.pattern }

def withCacheable (b : Binding η) (cacheable : Bool) : Binding η := { b with cacheable }

/-- A binding as it is shown to a developer; the handler is left out. -/
def describe (b : Binding η) : String :=
  let methods := match b.methods with
    | .any => "Any"
    | .only method => "Only(" ++ method.token ++ ")"
  let cacheable := if b.cacheable then "true" else "false"
  "RouteBinding \x7b name: " ++ Text.quoted b.name ++ ", pattern: "
    ++ Text.quoted b.pattern.source ++ ", methods: " ++ methods ++ ", cacheable: "
    ++ cacheable ++ ", .. \x7d"

end Binding

end Switchyard
