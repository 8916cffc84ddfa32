/-
  Switchyard.Http.Target
  ──────────────────────
  Request targets (RFC 9112).  Nothing is decoded, and what stands behind a
  number sign is dropped.  Of the four forms

      origin     `/path?query`
      asterisk   `*`, which counts as a path
      absolute   `scheme://host/path?query`, of which path and query count
      authority  `host:port`, with an empty path

  only the last has a path that does not begin with a slash or a star.
-/
import Switchyard.Text.Split

namespace Switchyard

structure Target where
  path : String
  /-- The raw query without its question mark. -/
  query : Option String
  deriving DecidableEq, Repr, Inhabited

namespace Target

/-- A path and the query behind it.  A path that is left out is a slash. -/
def ofPathAndQuery (cs : List Char) : Target :=
  let (path, query) := match Text.cutFirst? '?' cs with
    | some (path, query) => (path, some (String.ofList query))
    | none => (cs, none)
  ⟨if path = [] then "/" else String.ofList path, query⟩

/-- The target that a text spells. -/
def parse (text : String) : Target :=
  let cs := text.toList.takeWhile (· ≠ '#')
  if cs.head? = some '/' ∨ cs = ['*'] then ofPathAndQuery cs
  else match Text.cutFirst? ':' cs with
    | some (_, '/' :: '/' :: rest) => ofPathAndQuery (rest.dropWhile fun c => c ≠ '/' ∧ c ≠ '?')
    | _ => ⟨"", none⟩

end Target

end Switchyard
