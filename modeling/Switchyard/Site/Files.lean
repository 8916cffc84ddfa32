/-
  Switchyard.Site.Files
  ─────────────────────
  Static files: a path with one component asks for a file of that name in the
  root directory, the path `/` for the index.  Names that are hidden, climb or
  hold a backslash are never looked up, nor are excluded extensions.
-/
import Switchyard.Config.Basic
import Switchyard.Files.System
import Switchyard.Http.Request
import Switchyard.Site.Handler

namespace Switchyard

structure StaticFiles where
  root : String
  index : String
  defaultExtension : String
  /-- The excluded extensions, without dots in front and in lower case. -/
  excluded : List String
  deriving DecidableEq, Repr, Inhabited

namespace StaticFiles

/-- An extension without the dots in front of it. -/
def withoutDots (extension : String) : String :=
  String.ofList (extension.toList.dropWhile (· = '.'))

def ofConfig (c : StaticFilesConfig) : StaticFiles :=
  { root := c.root
    index := c.index
    defaultExtension := c.defaultExtension
    excluded := c.excludeExtensions.map fun x => Text.lowercase (withoutDots x) }

/-- Whether files with an extension are excluded, in any mix of cases. -/
def isExcluded (s : StaticFiles) (extension : String) : Bool :=
  s.excluded.any (Text.sameUpToCase · extension)

/-- Whether two dots stand next to each other. -/
def hasTwoDots : List Char → Bool
  | '.' :: '.' :: _ => true
  | _ :: cs => hasTwoDots cs
  | [] => false

/-- Whether a file name may be looked up: it is not hidden, holds no two dots
next to each other and no backslash. -/
def isPlainName (name : List Char) : Bool :=
  name.head? != some '.' && !hasTwoDots name && !name.contains '\\'

/-- The file that a request asks for, without its extension. -/
def name (s : StaticFiles) (params : Params) : String := (params.lookup "file").getD s.index

/-- The extension of the file that a request asks for. -/
def extension (s : StaticFiles) (params : Params) : String :=
  (params.lookup "extension").getD s.defaultExtension

/-- The path of the file to read, if it may be read. -/
def target? (s : StaticFiles) (params : Params) : Option String :=
  if isPlainName (s.name params).toList && !s.isExcluded (s.extension params) then
    some (Path.join s.root (s.name params ++ "." ++ s.extension params))
  else none

/-- The answer to a request, given the files. -/
def answer (s : StaticFiles) (fs : FileSystem) (params : Params) : Outcome :=
  match s.target? params with
  | none => .reply .notFound
  | some path =>
      match fs.read path with
      | .ok content =>
          .reply ((Response.new .ok content).withContentType
            (Response.contentTypeOf (s.extension params)))
      | .error .notFound => .reply .notFound
      | .error e => .failure ["reading " ++ path, e.message]

end StaticFiles

end Switchyard
