/-
  Switchyard.Cache.Key
  ────────────────────
  The identity of a cached answer: the binding that made it, what its pattern
  captured, and the query up to the order of its pieces.
-/
import Switchyard.Http.Request

namespace Switchyard

structure CacheKey where
  binding : String
  params : Params
  query : Option String
  deriving DecidableEq, Repr, Inhabited

namespace CacheKey

/-- The pieces of a query in rising order, joined again.  A query without
pieces is no query. -/
def canonicalQuery (query : String) : Option String :=
  match (Query.items query).mergeSort fun a b => a ≤ b with
  | [] => none
  | pieces => some ("&".intercalate pieces)

/-- The key of a request that a binding answers. -/
def new (binding : String) (params : Params) (query : Option String) : CacheKey :=
  { binding, params, query := query.bind canonicalQuery }

/-- The key in one line: the binding, the captures and the query. -/
def display (k : CacheKey) : String :=
  let params := k.params.map fun (name, value) => s!" {name}={value}"
  let query := match k.query with
    | some query => s!" ?{query}"
    | none => ""
  k.binding ++ String.join params ++ query

end CacheKey

end Switchyard
