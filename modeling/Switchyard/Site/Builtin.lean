/-
  Switchyard.Site.Builtin
  ───────────────────────
  The routes that a server adds to those of the application, as far as its
  configuration asks for them: debug echoes, admin routes and static files, in
  this order.  They come last, so the application's routes go first.
-/
import Switchyard.Site.Context

namespace Switchyard

variable {α ω : Type}

/-- A route as it is written down before its pattern is compiled. -/
structure RouteDraft (α : Type) where
  pattern : String
  name : String
  method? : Option Method
  cacheable : Bool
  endpoint : Endpoint α

namespace RouteDraft

def toBinding (d : RouteDraft α) : Except RouteError (Binding (Endpoint α)) := do
  let pattern ← (Pattern.compile d.pattern).mapError .pattern
  let b := (Binding.new pattern d.endpoint).withName d.name |>.withCacheable d.cacheable
  return match d.method? with
    | some method => b.withMethod method
    | none => b

/-- Adds routes to a table, one after the other.  What was added before one
that is refused stays. -/
def registerAll (table : RouteTable (Endpoint α)) :
    List (RouteDraft α) → Except RouteError Unit × RouteTable (Endpoint α)
  | [] => (.ok (), table)
  | d :: ds =>
      match d.toBinding >>= table.register with
      | .ok table => registerAll table ds
      | .error e => (.error e, table)

end RouteDraft

namespace Config

def debugRoutes : List (RouteDraft α) :=
  [⟨"debug/string/[value]", "debug-string", none, false, .echoText⟩,
    ⟨"debug/json/[value]", "debug-json", none, false, .echoJson⟩]

def adminRoutes (key : String) : List (RouteDraft α) :=
  [⟨"admin/status", "admin-status", some .get, false, .admin key .status⟩,
    ⟨"admin/routes", "admin-routes", some .get, false, .admin key .routes⟩,
    ⟨"admin/cache", "admin-cache", some .get, false, .admin key .cacheStats⟩,
    ⟨"admin/cache/clear", "admin-cache-clear", some .post, false, .admin key .clearCache⟩]

def fileRoutes (source : StaticFiles) : List (RouteDraft α) :=
  [⟨"/", "static-index", some .get, true, .files source⟩,
    ⟨"<file>[extension]", "static-files", some .get, true, .files source⟩]

/-- The routes that a configuration asks for. -/
def builtinRoutes (c : Config) : List (RouteDraft α) :=
  (if c.debug then debugRoutes else [])
    ++ (if c.admin.enabled then adminRoutes c.admin.apiKey else [])
    ++ (if c.staticFiles.enabled then fileRoutes (StaticFiles.ofConfig c.staticFiles) else [])

end Config

/-- Adds the routes that the configuration asks for. -/
def Context.registerBuiltins (c : Context α ω) : Except RouteError Unit × Context α ω :=
  let (done, routes) := RouteDraft.registerAll c.routes c.config.builtinRoutes
  (done, { c with routes })

end Switchyard
