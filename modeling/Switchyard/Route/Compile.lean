/-
  Switchyard.Route.Compile
  ────────────────────────
  From the text of a pattern to the pattern.

  Each component is cut into marks (plain text, `<name>`, `[name]`), the marks
  of a component make one part, and the parts are put together: only the last
  may vary, and no name is declared twice.  Of several faults the first in the
  order of the text is reported, those within components before those between
  them.
-/
import Switchyard.Route.Pattern

namespace Switchyard

/-! ## §1. Faults. -/

/-- What is wrong with the text of a pattern. -/
inductive PatternFault where
  /-- A bracket is not closed; the text from there on. -/
  | unterminated (token : String)
  /-- Two captures have one name. -/
  | duplicateName (name : String)
  /-- A capture that may be absent is not at the end. -/
  | variableNotLast (name : String)
  /-- The text in brackets is no name. -/
  | invalidName (name : String)
  /-- The component has none of the known forms. -/
  | malformed (component : String)
  deriving DecidableEq, Repr

/-- A fault and the pattern that has it. -/
structure PatternError where
  pattern : String
  fault : PatternFault
  deriving DecidableEq, Repr

def PatternError.message (e : PatternError) : String :=
  let pattern := e.pattern
  match e.fault with
  | .unterminated token => s!"unterminated capture `{token}` in pattern `{pattern}`"
  | .duplicateName name => s!"capture `{name}` is declared more than once in pattern `{pattern}`"
  | .variableNotLast name =>
      s!"variable segment `{name}` must be the last segment of pattern `{pattern}`"
  | .invalidName name => s!"invalid capture name `{name}` in pattern `{pattern}`"
  | .malformed component => s!"malformed component `{component}` in pattern `{pattern}`"

namespace Pattern

/-! ## §2. The marks of a component. -/

/-- A piece of a component's text. -/
inductive Mark where
  /-- Text outside of brackets. -/
  | text (chars : List Char)
  /-- `<name>` -/
  | required (name : String)
  /-- `[name]` or `[name=default]` -/
  | optional (name : String) (default? : Option String)
  deriving DecidableEq, Repr

/-- A character of a capture's name. -/
def isNameChar (c : Char) : Bool := c.isAlphanum || c == '_' || c == '-'

/-- The name that stands in brackets: not empty, of ASCII letters, digits,
underscores and hyphens. -/
def checkName (cs : List Char) : Except PatternFault String :=
  if cs ≠ [] ∧ cs.all isNameChar then .ok (String.ofList cs)
  else .error (.invalidName (String.ofList cs))

/-- A character that opens or closes a capture. -/
def isBracket (c : Char) : Bool := c == '<' || c == '>' || c == '[' || c == ']'

theorem length_after_cut {sep : Char} {cs a b : List Char}
    (h : Text.cutFirst? sep cs = some (a, b)) : b.length < cs.length + 1 := by
  have := (Text.cutFirst?_eq_some h).1
  simp only [this, List.length_append, List.length_cons]
  omega

theorem length_dropWhile_le (p : Char → Bool) (cs : List Char) :
    (cs.dropWhile p).length ≤ cs.length :=
  (List.dropWhile_sublist p).length_le

/-- The marks of what is left of a component. -/
def marks (component : String) : List Char → Except PatternFault (List Mark)
  | [] => .ok []
  | '<' :: cs =>
      match h : Text.cutFirst? '>' cs with
      | none => .error (.unterminated (String.ofList ('<' :: cs)))
      | some (inner, rest) => do
          let name ← checkName inner
          have := length_after_cut h
          let more ← marks component rest
          return .required name :: more
  | '[' :: cs =>
      match h : Text.cutFirst? ']' cs with
      | none => .error (.unterminated (String.ofList ('[' :: cs)))
      | some (inner, rest) => do
          let mark ← match Text.cutFirst? '=' inner with
            | some (name, default) =>
                (checkName name).map (Mark.optional · (some (String.ofList default)))
            | none => (checkName inner).map (Mark.optional · none)
          have := length_after_cut h
          let more ← marks component rest
          return mark :: more
  | c :: cs =>
      if isBracket c then .error (.malformed component)
      else do
        have := length_dropWhile_le (fun d => !isBracket d) cs
        let more ← marks component (cs.dropWhile fun d => !isBracket d)
        return .text (c :: cs.takeWhile fun d => !isBracket d) :: more
termination_by cs => cs.length
decreasing_by all_goals simp only [List.length_cons]; omega

/-! ## §3. The part that a component makes. -/

/-- One component of a pattern. -/
inductive Part where
  | fixed (piece : Piece)
  | optional (name : String) (default? : Option String)
  | extended (stem : Piece) (name : String) (suffix : Suffix)
  deriving DecidableEq, Repr

/-- The literal stem that a text in front of an extension stands for: one dot
at its end belongs to the extension. -/
def literalStem? (dotRequired : Bool) (text : List Char) : Option String :=
  let stem := if text.getLast? = some '.' then some text.dropLast
    else if dotRequired then none else some text
  stem.bind fun cs => if cs = [] then none else some (String.ofList cs)

/-- The part of a component's marks. -/
def partOf (component : String) : List Mark → Except PatternFault Part
  | [.text cs] => .ok (.fixed (.literal (String.ofList cs)))
  | [.required name] => .ok (.fixed (.capture name))
  | [.optional name default?] => .ok (.optional name default?)
  | [.required stem, .optional name default?]
  | [.required stem, .text ['.'], .optional name default?] =>
      .ok (.extended (.capture stem) name (.optional default?))
  | [.required stem, .text ['.'], .required name] =>
      .ok (.extended (.capture stem) name .required)
  | [.text cs, .optional name default?] =>
      match literalStem? false cs with
      | some stem => .ok (.extended (.literal stem) name (.optional default?))
      | none => .error (.malformed component)
  | [.text cs, .required name] =>
      match literalStem? true cs with
      | some stem => .ok (.extended (.literal stem) name .required)
      | none => .error (.malformed component)
  | .optional name _ :: _ :: _ => .error (.variableNotLast name)
  | _ => .error (.malformed component)

/-- The part of a component's text. -/
def parsePart (component : List Char) : Except PatternFault Part :=
  let text := String.ofList component
  if component = [] then .error (.malformed text)
  else (marks text component).bind (partOf text)

/-! ## §4. The pattern. -/

/-- The declared names with one more, which must be new. -/
def declare (names : List String) (name : String) : Except PatternFault (List String) :=
  if name ∈ names then .error (.duplicateName name) else .ok (names ++ [name])

/-- The declared names with that of a piece. -/
def declarePiece (names : List String) : Piece → Except PatternFault (List String)
  | .literal _ => .ok names
  | .capture name => declare names name

/-- The body and the tail that the parts make, `names` being declared already. -/
def assemble (names : List String) : List Part → Except PatternFault (List Piece × Tail)
  | [] => .ok ([], .closed)
  | [.optional name default?] => do
      let _ ← declare names name
      return ([], .optional name default?)
  | [.extended stem name suffix] => do
      let names ← declarePiece names stem
      let _ ← declare names name
      return ([], .extension stem name suffix)
  | .optional name _ :: _ => .error (.variableNotLast name)
  | .extended stem name _ :: _ => do
      let _ ← declarePiece names stem
      .error (.variableNotLast name)
  | .fixed piece :: parts => do
      let names ← declarePiece names piece
      let (body, tail) ← assemble names parts
      return (piece :: body, tail)

/-- Body and tail of a pattern's text. -/
def parse (text : String) : Except PatternFault (List Piece × Tail) :=
  match Text.trimSlashes text.toList with
  | [] => .ok ([], .closed)
  | cs => do
      let parts ← (Text.pieces '/' cs).mapM parsePart
      assemble [] parts

/-- The pattern of a text. -/
def compile (text : String) : Except PatternError Pattern :=
  match parse text with
  | .ok (body, tail) => .ok ⟨text, body, tail⟩
  | .error fault => .error ⟨text, fault⟩

end Pattern

end Switchyard
