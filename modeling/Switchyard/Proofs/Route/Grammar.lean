/-
  Switchyard.Proofs.Route.Grammar
  ───────────────────────────────
  The texts that are patterns.  Between its slashes a pattern has components
  of the forms

      text                        literal
      <name>                      capture
      [name]  [name=default]      optional capture
      <stem>[ext]  <stem>.[ext]   captured stem, optional extension
      <stem>.<ext>                captured stem, required extension
      text[ext]                   literal stem, optional extension
      text.<ext>                  literal stem, required extension

  where only the last may be of a form that varies, and no name stands twice.

      Spells       — a component's text and the part that it stands for
      Grammatical  — a pattern's text and the parts that it stands for
      Segment      — a pattern as one list, a stem in front of its extension

  Main statement:

      compile_iff_grammatical
-/
import Mathlib.Data.List.Forall2
import Switchyard.Proofs.Route.Compiled
import Switchyard.Proofs.Text.Cuts

namespace Switchyard

/-! ## §1. A pattern as one list. -/

/-- One element of a pattern. -/
inductive Segment where
  /-- One component, or the stem of an extension: this text. -/
  | literal (text : String)
  /-- One component, or the stem of an extension: any text. -/
  | required (name : String)
  /-- At most one component. -/
  | optional (name : String) (default? : Option String)
  /-- What stands behind the last dot of the component whose stem is the
  segment before. -/
  | extension (name : String) (required : Bool) (default? : Option String)
  deriving DecidableEq, Repr

namespace Segment

/-- Whether a path may have more or less in the segment's place. -/
def varies : Segment → Bool
  | literal _ | required _ => false
  | optional _ _ | extension _ _ _ => true

/-- The name that the segment captures a value under, if it captures one. -/
def name? : Segment → Option String
  | literal _ => none
  | required name | optional name _ | extension name _ _ => some name

end Segment

def Piece.segment : Piece → Segment
  | .literal text => .literal text
  | .capture name => .required name

def Suffix.segment (name : String) : Suffix → Segment
  | .required => .extension name true none
  | .optional default? => .extension name false default?

def Tail.segments : Tail → List Segment
  | .closed => []
  | .optional name default? => [.optional name default?]
  | .extension stem name suffix => [stem.segment, suffix.segment name]

theorem Piece.segment_varies (piece : Piece) : piece.segment.varies = false := by
  cases piece with
  | literal text => rfl
  | capture name => rfl

theorem Piece.names_cons (piece : Piece) (segments : List Segment) :
    (piece.segment :: segments).filterMap Segment.name?
      = piece.names ++ segments.filterMap Segment.name? := by
  cases piece with
  | literal text => rfl
  | capture name => rfl

theorem Tail.segments_names (tail : Tail) : tail.segments.filterMap Segment.name? = tail.names := by
  cases tail with
  | closed => rfl
  | optional name default? => rfl
  | extension stem name suffix =>
      rw [segments, Piece.names_cons, names]
      cases suffix with
      | required => rfl
      | optional default? => rfl

namespace Pattern

/-- The segments of a pattern, in the order of its text. -/
def segments (p : Pattern) : List Segment := p.body.map Piece.segment ++ p.tail.segments

/-- The segments that a component's part makes. -/
def Part.segments : Part → List Segment
  | .fixed piece => [piece.segment]
  | .optional name default? => [.optional name default?]
  | .extended stem name suffix => [stem.segment, suffix.segment name]

/-! ## §2. The forms of a component. -/

/-- A text outside of brackets: not empty, and without any of `<>[]`. -/
def IsPlain (cs : List Char) : Prop := cs ≠ [] ∧ ∀ c ∈ cs, isBracket c = false

/-- A text without one dot at its end, if it ends in one. -/
def dropFinalDot (cs : List Char) : List Char :=
  if cs.getLast? = some '.' then cs.dropLast else cs

/-- `[name]` and `[name=default]`. -/
inductive Bracketed : List Char → String → Option String → Prop where
  | bare {name : List Char} (isName : IsName name) :
      Bracketed ('[' :: (name ++ [']'])) (String.ofList name) none
  | withDefault {name default : List Char} (isName : IsName name) (unclosed : ']' ∉ default) :
      Bracketed ('[' :: (name ++ '=' :: default ++ [']'])) (String.ofList name)
        (some (String.ofList default))

theorem Bracketed.head {cs : List Char} {name : String} {default? : Option String}
    (h : Bracketed cs name default?) : ∀ c ∈ cs.head?, isBracket c = true := by
  cases h with
  | bare => simp [isBracket]
  | withDefault => simp [isBracket]

/-- The text of a component, and the part that it stands for. -/
inductive Spells : List Char → Part → Prop where
  /-- `text` -/
  | literal {text : List Char} (plain : IsPlain text) :
      Spells text (.fixed (.literal (String.ofList text)))
  /-- `<name>` -/
  | capture {name : List Char} (isName : IsName name) :
      Spells ('<' :: (name ++ ['>'])) (.fixed (.capture (String.ofList name)))
  /-- `[name]`, `[name=default]` -/
  | optional {cs : List Char} {name : String} {default? : Option String}
      (bracketed : Bracketed cs name default?) : Spells cs (.optional name default?)
  /-- `<stem>[ext]` -/
  | stemOptional {stem cs : List Char} {name : String} {default? : Option String}
      (isName : IsName stem) (bracketed : Bracketed cs name default?) :
      Spells ('<' :: (stem ++ '>' :: cs))
        (.extended (.capture (String.ofList stem)) name (.optional default?))
  /-- `<stem>.[ext]` -/
  | stemDotOptional {stem cs : List Char} {name : String} {default? : Option String}
      (isName : IsName stem) (bracketed : Bracketed cs name default?) :
      Spells ('<' :: (stem ++ '>' :: '.' :: cs))
        (.extended (.capture (String.ofList stem)) name (.optional default?))
  /-- `<stem>.<ext>` -/
  | stemRequired {stem name : List Char} (isStem : IsName stem) (isName : IsName name) :
      Spells ('<' :: (stem ++ '>' :: '.' :: '<' :: (name ++ ['>'])))
        (.extended (.capture (String.ofList stem)) (String.ofList name) .required)
  /-- `text[ext]`, one dot at the end of the text belonging to the extension. -/
  | textOptional {text cs : List Char} {name : String} {default? : Option String}
      (plain : IsPlain text) (stem : dropFinalDot text ≠ [])
      (bracketed : Bracketed cs name default?) :
      Spells (text ++ cs)
        (.extended (.literal (String.ofList (dropFinalDot text))) name (.optional default?))
  /-- `text.<ext>` -/
  | textRequired {text name : List Char} (plain : IsPlain text) (isName : IsName name) :
      Spells (text ++ '.' :: '<' :: (name ++ ['>']))
        (.extended (.literal (String.ofList text)) (String.ofList name) .required)

/-! ## §3. Cutting finds the marks that a text was put together from. -/

theorem IsName.not_mem {cs : List Char} (h : IsName cs) {c : Char} (hc : isNameChar c = false) :
    c ∉ cs := by
  intro hm
  have hname := List.all_eq_true.mp h.2 c hm
  rw [hc] at hname
  simp at hname

theorem checkName_of_isName {cs : List Char} (h : IsName cs) :
    checkName cs = .ok (String.ofList cs) := if_pos h

/-- The mark that `[` and `]` enclose. -/
def markOfBrackets (inner : List Char) : Except PatternFault Mark :=
  match Text.cutFirst? '=' inner with
  | some (name, default) =>
      (checkName name).map (Mark.optional · (some (String.ofList default)))
  | none => (checkName inner).map (Mark.optional · none)

theorem marks_angle (component : String) {cs inner rest : List Char}
    (h : Text.cutFirst? '>' cs = some (inner, rest)) :
    marks component ('<' :: cs) = (do
      let name ← checkName inner
      let more ← marks component rest
      return .required name :: more) := by
  rw [marks]
  split
  · next hnone => simp [h] at hnone
  · next inner' rest' hsome =>
      obtain ⟨rfl, rfl⟩ : inner = inner' ∧ rest = rest' := by simpa [h] using hsome
      rfl

theorem marks_square (component : String) {cs inner rest : List Char}
    (h : Text.cutFirst? ']' cs = some (inner, rest)) :
    marks component ('[' :: cs) = (do
      let mark ← markOfBrackets inner
      let more ← marks component rest
      return mark :: more) := by
  rw [marks]
  split
  · next hnone => simp [h] at hnone
  · next inner' rest' hsome =>
      obtain ⟨rfl, rfl⟩ : inner = inner' ∧ rest = rest' := by simpa [h] using hsome
      unfold markOfBrackets
      cases Text.cutFirst? '=' inner with
      | none => rfl
      | some cut => rfl

theorem marks_plain (component : String) {c : Char} (hc : isBracket c = false) (cs : List Char) :
    marks component (c :: cs) = (do
      let more ← marks component (cs.dropWhile fun d => !isBracket d)
      return .text (c :: cs.takeWhile fun d => !isBracket d) :: more) := by
  have hangle : c ≠ '<' := by
    rintro rfl
    simp [isBracket] at hc
  have hsquare : c ≠ '[' := by
    rintro rfl
    simp [isBracket] at hc
  rw [marks, if_neg (by simp [hc])]
  · exact hangle
  · exact hsquare

/-- **The marks of a text are found**, whatever the component is called in
messages. -/
theorem Marked.marks_eq {cs : List Char} {ms : List Mark} (h : Marked cs ms) (component : String) :
    marks component cs = .ok ms := by
  induction h with
  | done => rw [marks]
  | @required name rest ms isName _ ih =>
      have hcut := Text.cutFirst?_append (isName.not_mem (c := '>') (by decide)) rest
      rw [marks_angle component hcut, checkName_of_isName isName, ih]
      rfl
  | @optional name rest ms isName _ ih =>
      have hcut := Text.cutFirst?_append (isName.not_mem (c := ']') (by decide)) rest
      have hmark : markOfBrackets name = .ok (.optional (String.ofList name) none) := by
        rw [markOfBrackets, Text.cutFirst?_eq_none (isName.not_mem (by decide)),
          checkName_of_isName isName]
        rfl
      rw [marks_square component hcut, hmark, ih]
      rfl
  | @withDefault name default rest ms isName unclosed _ ih =>
      -- The first closing bracket stands behind the default, and the first
      -- equals sign in front of it.
      have hinner : ']' ∉ name ++ '=' :: default := by
        have hname := isName.not_mem (c := ']') (by decide)
        simp [hname, unclosed]
      have hmark : markOfBrackets (name ++ '=' :: default)
          = .ok (.optional (String.ofList name) (some (String.ofList default))) := by
        rw [markOfBrackets, Text.cutFirst?_append (isName.not_mem (by decide)) default]
        show (checkName name).map _ = _
        rw [checkName_of_isName isName]
        rfl
      rw [marks_square component (Text.cutFirst?_append hinner rest), hmark, ih]
      rfl
  | @text cs rest ms nonempty plain longest _ ih =>
      cases cs with
      | nil => exact absurd rfl nonempty
      | cons c cs =>
          have hcs : ∀ d ∈ cs, (!isBracket d) = true := fun d hd => by
            rw [plain d (List.mem_cons_of_mem _ hd)]
            rfl
          -- The rest begins with a bracket, so the text goes no further.
          have hstop : rest.takeWhile (fun d => !isBracket d) = []
              ∧ rest.dropWhile (fun d => !isBracket d) = rest := by
            cases rest with
            | nil => exact ⟨rfl, rfl⟩
            | cons d rest =>
                have hd : isBracket d = true := longest d rfl
                simp [hd]
          rw [List.cons_append, marks_plain component (plain c List.mem_cons_self),
            List.dropWhile_append_of_pos hcs, List.takeWhile_append_of_pos hcs, hstop.1, hstop.2,
            ih, List.append_nil]
          rfl

/-! ## §4. The part that the marks make. -/

theorem marked_iff_bracketed {cs : List Char} {name : String} {default? : Option String} :
    Marked cs [.optional name default?] ↔ Bracketed cs name default? := by
  constructor
  · intro h
    cases h with
    | optional isName more =>
        cases more
        exact .bare isName
    | withDefault isName unclosed more =>
        cases more
        exact .withDefault isName unclosed
  · intro h
    cases h with
    | bare isName => exact .optional isName .done
    | withDefault isName unclosed => exact .withDefault isName unclosed .done

theorem marked_iff_angle {cs : List Char} {name : String} :
    Marked cs [.required name]
      ↔ ∃ text, IsName text ∧ name = String.ofList text ∧ cs = '<' :: (text ++ ['>']) := by
  constructor
  · intro h
    cases h with
    | required isName more =>
        cases more
        exact ⟨_, isName, rfl, rfl⟩
  · rintro ⟨text, isName, rfl, rfl⟩
    exact .required isName .done

/-- A literal stem in front of an optional extension. -/
theorem literalStem?_optional {text : List Char} {stem : String} :
    literalStem? false text = some stem
      ↔ dropFinalDot text ≠ [] ∧ stem = String.ofList (dropFinalDot text) := by
  have hstem : literalStem? false text
      = if dropFinalDot text = [] then none else some (String.ofList (dropFinalDot text)) := by
    unfold literalStem? dropFinalDot
    by_cases hdot : text.getLast? = some '.'
    · simp [hdot]
    · simp [hdot]
  rw [hstem]
  by_cases hempty : dropFinalDot text = []
  · simp [hempty]
  · simp [hempty, eq_comm]

/-- A literal stem in front of a required extension has a dot behind it. -/
theorem literalStem?_required {text : List Char} {stem : String} :
    literalStem? true text = some stem
      ↔ ∃ cs, cs ≠ [] ∧ text = cs ++ ['.'] ∧ stem = String.ofList cs := by
  unfold literalStem?
  constructor
  · intro h
    by_cases hdot : text.getLast? = some '.'
    · obtain ⟨cs, rfl⟩ := List.getLast?_eq_some_iff.mp hdot
      have hcs : ¬cs = [] ∧ String.ofList cs = stem := by simpa using h
      exact ⟨cs, hcs.1, rfl, hcs.2.symm⟩
    · simp [hdot] at h
  · rintro ⟨cs, hne, rfl, rfl⟩
    simp [hne]

/-- The marks of a text make a part that the text spells. -/
theorem Marked.spells {component : String} {cs : List Char} {ms : List Mark} {part : Part}
    (h : Marked cs ms) (hpart : partOf component ms = .ok part) : Spells cs part := by
  -- One case for each list of marks that makes a part, in the order of `partOf`.
  unfold partOf at hpart
  split at hpart
  case h_1 text =>
      obtain rfl := Except.ok.inj hpart
      cases h with
      | text nonempty plain _ more =>
          cases more
          rw [List.append_nil]
          exact .literal ⟨nonempty, plain⟩
  case h_2 name =>
      obtain rfl := Except.ok.inj hpart
      obtain ⟨text, isName, rfl, rfl⟩ := marked_iff_angle.mp h
      exact .capture isName
  case h_3 name default? =>
      obtain rfl := Except.ok.inj hpart
      exact .optional (marked_iff_bracketed.mp h)
  case h_4 stem name default? =>
      obtain rfl := Except.ok.inj hpart
      cases h with
      | required isName more => exact .stemOptional isName (marked_iff_bracketed.mp more)
  case h_5 stem name default? =>
      obtain rfl := Except.ok.inj hpart
      cases h with
      | required isName more =>
          cases more with
          | text _ _ _ more => exact .stemDotOptional isName (marked_iff_bracketed.mp more)
  case h_6 stem name =>
      obtain rfl := Except.ok.inj hpart
      cases h with
      | required isStem more =>
          cases more with
          | text _ _ _ more =>
              obtain ⟨text, isName, rfl, rfl⟩ := marked_iff_angle.mp more
              exact .stemRequired isStem isName
  case h_7 text name default? =>
      split at hpart
      · next stem hstem =>
          obtain rfl := Except.ok.inj hpart
          obtain ⟨hne, rfl⟩ := literalStem?_optional.mp hstem
          cases h with
          | text nonempty plain _ more =>
              exact .textOptional ⟨nonempty, plain⟩ hne (marked_iff_bracketed.mp more)
      · simp at hpart
  case h_8 text name =>
      split at hpart
      · next stem hstem =>
          obtain rfl := Except.ok.inj hpart
          obtain ⟨stem, hne, rfl, rfl⟩ := literalStem?_required.mp hstem
          cases h with
          | text _ plain _ more =>
              obtain ⟨name, isName, rfl, rfl⟩ := marked_iff_angle.mp more
              rw [List.append_assoc]
              exact .textRequired ⟨hne, fun c hc => plain c (List.mem_append_left _ hc)⟩ isName
      · simp at hpart
  case h_9 | h_10 => simp at hpart

/-- A text has the marks of the part that it spells. -/
theorem Spells.marked {cs : List Char} {part : Part} (h : Spells cs part) (component : String) :
    ∃ ms, Marked cs ms ∧ partOf component ms = .ok part := by
  cases h with
  | literal plain =>
      have hms := Marked.text plain.1 plain.2 (by simp) .done
      rw [List.append_nil] at hms
      exact ⟨_, hms, rfl⟩
  | capture isName => exact ⟨_, .required isName .done, rfl⟩
  | optional bracketed => exact ⟨_, marked_iff_bracketed.mpr bracketed, rfl⟩
  | stemOptional isName bracketed =>
      exact ⟨_, .required isName (marked_iff_bracketed.mpr bracketed), rfl⟩
  -- A dot between two captures is a text of its own.
  | @stemDotOptional stem cs _ _ isName bracketed =>
      have hmore : Marked ('.' :: cs) _ :=
        .text (List.cons_ne_nil '.' []) (by simp [isBracket]) bracketed.head
          (marked_iff_bracketed.mpr bracketed)
      exact ⟨_, .required isName hmore, rfl⟩
  | @stemRequired stem name isStem isName =>
      have hmore : Marked ('.' :: '<' :: (name ++ ['>'])) _ :=
        .text (List.cons_ne_nil '.' []) (by simp [isBracket]) (by simp [isBracket])
          (.required isName .done)
      exact ⟨_, .required isStem hmore, rfl⟩
  -- One dot at the end of the text belongs to the extension, the stem is what stands before.
  | @textOptional text cs _ _ plain stem bracketed =>
      refine ⟨_, .text plain.1 plain.2 bracketed.head (marked_iff_bracketed.mpr bracketed), ?_⟩
      rw [partOf, literalStem?_optional.mpr ⟨stem, rfl⟩]
  | @textRequired text name plain isName =>
      have hdotted : ∀ c ∈ text ++ ['.'], isBracket c = false := by
        intro c hc
        rcases List.mem_append.mp hc with hc | hc
        · exact plain.2 c hc
        · obtain rfl := List.mem_singleton.mp hc
          rfl
      have hms : Marked (text ++ ['.'] ++ '<' :: (name ++ ['>'])) _ :=
        .text (by simp) hdotted (by simp [isBracket]) (.required isName .done)
      rw [List.append_assoc] at hms
      refine ⟨_, hms, ?_⟩
      rw [partOf, literalStem?_required.mpr ⟨text, plain.1, rfl, rfl⟩]

/-- **A component makes the part that its text spells**, and no other text
makes one. -/
theorem parsePart_eq_ok_iff {cs : List Char} {part : Part} :
    parsePart cs = .ok part ↔ Spells cs part := by
  constructor
  · intro h
    unfold parsePart at h
    split at h
    · simp at h
    · obtain ⟨ms, hms, hpart⟩ := of_bind_eq_ok h
      exact (marks_eq_ok hms).spells hpart
  · intro h
    obtain ⟨ms, hms, hpart⟩ := h.marked (String.ofList cs)
    have hmarks := hms.marks_eq (String.ofList cs)
    -- The empty text has no marks, and no marks make no part.
    have hne : cs ≠ [] := by
      rintro rfl
      rw [marks] at hmarks
      obtain rfl := Except.ok.inj hmarks
      simp [partOf] at hpart
    rw [parsePart, if_neg hne, hmarks]
    exact hpart

/-! ## §5. The pattern that the parts make. -/

/-- The text of a pattern and the parts that it stands for. -/
structure Grammatical (text : String) (parts : List Part) : Prop where
  /-- Each component has one of the forms. -/
  spelled : List.Forall₂ Spells ((components text).map String.toList) parts
  /-- Only the last is of a form that varies. -/
  fixed : ∀ part ∈ parts.dropLast, ∃ piece, part = .fixed piece
  /-- No name stands twice. -/
  distinct : ((parts.flatMap Part.segments).filterMap Segment.name?).Nodup

theorem mapM_eq_ok_iff {α β ε : Type} {f : α → Except ε β} {xs : List α} {ys : List β} :
    xs.mapM f = .ok ys ↔ List.Forall₂ (fun x y => f x = .ok y) xs ys := by
  induction xs generalizing ys with
  | nil => simp [pure, Except.pure, eq_comm]
  | cons x xs ih =>
      rw [List.mapM_cons]
      constructor
      · intro h
        obtain ⟨y, hy, h⟩ := of_bind_eq_ok h
        obtain ⟨ys', hys, h⟩ := of_bind_eq_ok h
        obtain rfl : y :: ys' = ys := Except.ok.inj h
        exact .cons hy (ih.mp hys)
      · intro h
        cases h with
        | cons hy hys =>
            rw [hy, ih.mpr hys]
            rfl

/-- The parts of a text are those that its components spell. -/
theorem parse_eq_ok_iff {text : String} {body : List Piece} {tail : Tail} :
    parse text = .ok (body, tail)
      ↔ ∃ parts, List.Forall₂ Spells ((components text).map String.toList) parts
        ∧ assemble [] parts = .ok (body, tail) := by
  -- Nothing between the slashes has no components and no parts, so it needs no case of its own.
  have hparse : parse text
      = (((components text).map String.toList).mapM parsePart >>= assemble []) := by
    unfold parse components
    cases Text.trimSlashes text.toList with
    | nil => rfl
    | cons c cs =>
        show _ = (List.map String.toList (List.map String.ofList _)).mapM parsePart >>= _
        rw [List.map_map, show String.toList ∘ String.ofList = id from funext fun cs => by simp,
          List.map_id]
  rw [hparse]
  constructor
  · intro h
    obtain ⟨parts, hparts, hassemble⟩ := of_bind_eq_ok h
    exact ⟨parts, (mapM_eq_ok_iff.mp hparts).imp fun _ _ => parsePart_eq_ok_iff.mp, hassemble⟩
  · rintro ⟨parts, hspelled, hassemble⟩
    rw [mapM_eq_ok_iff.mpr (hspelled.imp fun _ _ => parsePart_eq_ok_iff.mpr)]
    exact hassemble

theorem declare_of_nodup {names : List String} {name : String} (h : (names ++ [name]).Nodup) :
    declare names name = .ok (names ++ [name]) := by
  rw [← List.concat_eq_append] at h
  exact if_neg ((List.nodup_concat _ _).mp h).1

theorem declarePiece_of_nodup {names : List String} {piece : Piece}
    (h : (names ++ piece.names).Nodup) : declarePiece names piece = .ok (names ++ piece.names) := by
  cases piece with
  | literal text => exact congrArg Except.ok (List.append_nil _).symm
  | capture name => exact declare_of_nodup h

theorem forall_mem_dropLast_cons {P : Part → Prop} {part : Part} {parts : List Part} :
    (∀ q ∈ (part :: parts).dropLast, P q)
      ↔ (parts ≠ [] → P part) ∧ ∀ q ∈ parts.dropLast, P q := by
  cases parts with
  | nil => simp
  | cons next parts => simp [List.dropLast_cons_cons]

/-- Nothing stands behind a part that is not fixed. -/
theorem eq_nil_of_varies {part : Part} {parts : List Part}
    (hpart : parts ≠ [] → ∃ piece, part = .fixed piece) (hvaries : ∀ piece, part ≠ .fixed piece) :
    parts = [] := by
  by_contra hmore
  obtain ⟨piece, hpiece⟩ := hpart hmore
  exact hvaries piece hpiece

/-- The parts that can be put together are fixed but for the last. -/
theorem assemble_eq_ok {names : List String} {parts : List Part} {body : List Piece} {tail : Tail}
    (h : assemble names parts = .ok (body, tail)) :
    (∀ part ∈ parts.dropLast, ∃ piece, part = .fixed piece)
      ∧ body.map Piece.segment ++ tail.segments = parts.flatMap Part.segments := by
  -- Only a part at the end may vary (`case2`, `case3`); one with others behind it is
  -- refused (`case4`, `case5`).
  fun_induction assemble names parts generalizing body tail with
  | case1 =>
      obtain ⟨rfl, rfl⟩ := Prod.mk.inj (Except.ok.inj h)
      exact ⟨by simp, rfl⟩
  | case2 names name default? =>
      obtain ⟨_, _, h⟩ := of_bind_eq_ok h
      obtain ⟨rfl, rfl⟩ := Prod.mk.inj (Except.ok.inj h)
      exact ⟨by simp, rfl⟩
  | case3 names stem name suffix =>
      obtain ⟨_, _, h⟩ := of_bind_eq_ok h
      obtain ⟨_, _, h⟩ := of_bind_eq_ok h
      obtain ⟨rfl, rfl⟩ := Prod.mk.inj (Except.ok.inj h)
      exact ⟨by simp, rfl⟩
  | case4 => simp at h
  | case5 =>
      obtain ⟨_, _, h⟩ := of_bind_eq_ok h
      simp at h
  | case6 names piece parts ih =>
      obtain ⟨names', _, h⟩ := of_bind_eq_ok h
      obtain ⟨⟨body', tail'⟩, hrest, h⟩ := of_bind_eq_ok h
      obtain ⟨rfl, rfl⟩ := Prod.mk.inj (Except.ok.inj h)
      obtain ⟨hfixed, hsegments⟩ := ih _ hrest
      refine ⟨forall_mem_dropLast_cons.mpr ⟨fun _ => ⟨piece, rfl⟩, hfixed⟩, ?_⟩
      rw [List.flatMap_cons, ← hsegments]
      rfl

/-- Parts that are fixed but for the last, with names that are new, can be put
together. -/
theorem assemble_of_fixed {names : List String} {parts : List Part}
    (hfixed : ∀ part ∈ parts.dropLast, ∃ piece, part = .fixed piece)
    (hnames : (names ++ (parts.flatMap Part.segments).filterMap Segment.name?).Nodup) :
    ∃ body tail, assemble names parts = .ok (body, tail) := by
  -- The names so far grow by those of each part.
  induction parts generalizing names with
  | nil => exact ⟨[], .closed, rfl⟩
  | cons part parts ih =>
      obtain ⟨hpart, hparts⟩ := forall_mem_dropLast_cons.mp hfixed
      rw [List.flatMap_cons] at hnames
      cases part with
      | fixed piece =>
          rw [show (Part.fixed piece).segments = [piece.segment] from rfl, List.singleton_append,
            Piece.names_cons, ← List.append_assoc] at hnames
          obtain ⟨body, tail, hrest⟩ := ih hparts hnames
          refine ⟨piece :: body, tail, ?_⟩
          rw [assemble, declarePiece_of_nodup (List.nodup_append'.mp hnames).1]
          show (assemble (names ++ piece.names) parts >>= _) = _
          rw [hrest]
          rfl
      | optional name default? =>
          obtain rfl := eq_nil_of_varies hpart (by simp)
          refine ⟨[], .optional name default?, ?_⟩
          rw [assemble, declare_of_nodup hnames]
          rfl
      | extended stem name suffix =>
          obtain rfl := eq_nil_of_varies hpart (by simp)
          have hall : (names ++ stem.names ++ [name]).Nodup := by
            rw [List.flatMap_nil, List.append_nil, show (Part.extended stem name suffix).segments
              = (Tail.extension stem name suffix).segments from rfl, Tail.segments_names] at hnames
            rw [List.append_assoc]
            exact hnames
          refine ⟨[], .extension stem name suffix, ?_⟩
          rw [assemble, declarePiece_of_nodup (List.nodup_append'.mp hall).1]
          show (declare (names ++ stem.names) name >>= _) = _
          rw [declare_of_nodup hall]
          rfl

/-! ## §6. Whole texts. -/

theorem compile_eq_ok_iff {text : String} {p : Pattern} :
    compile text = .ok p ↔ p.source = text ∧ parse text = .ok (p.body, p.tail) := by
  unfold compile
  constructor
  · intro h
    split at h
    · next body tail hparse =>
        obtain rfl := Except.ok.inj h
        exact ⟨rfl, hparse⟩
    · simp at h
  · rintro ⟨rfl, hparse⟩
    rw [hparse]

theorem segments_names (p : Pattern) : p.segments.filterMap Segment.name? = p.names := by
  have hbody : ∀ body : List Piece,
      (body.map Piece.segment ++ p.tail.segments).filterMap Segment.name?
        = body.flatMap Piece.names ++ p.tail.names := by
    intro body
    induction body with
    | nil => exact p.tail.segments_names
    | cons piece body ih =>
        rw [List.map_cons, List.cons_append, Piece.names_cons, ih, List.flatMap_cons,
          List.append_assoc]
  exact hbody p.body

/-- A compiled text is grammatical, and its parts are what it is compiled to. -/
theorem grammatical_of_compile {text : String} {p : Pattern} (h : compile text = .ok p) :
    ∃ parts, Grammatical text parts ∧ p.segments = parts.flatMap Part.segments := by
  obtain ⟨parts, hspelled, hassemble⟩ := parse_eq_ok_iff.mp (compile_eq_ok_iff.mp h).2
  obtain ⟨hfixed, hsegments⟩ := assemble_eq_ok hassemble
  refine ⟨parts, ⟨hspelled, hfixed, ?_⟩, hsegments⟩
  have hnames : (p.segments.filterMap Segment.name?).Nodup := by
    rw [segments_names]
    exact compile_names_nodup h
  rw [← hsegments]
  exact hnames

/-- A grammatical text compiles, and to nothing but its parts. -/
theorem Grammatical.compile {text : String} {parts : List Part} (h : Grammatical text parts) :
    ∃ p, Pattern.compile text = .ok p ∧ p.source = text
      ∧ p.segments = parts.flatMap Part.segments := by
  obtain ⟨body, tail, hassemble⟩ := @assemble_of_fixed [] _ h.fixed h.distinct
  have hparse : parse text = .ok (body, tail) := parse_eq_ok_iff.mpr ⟨parts, h.spelled, hassemble⟩
  exact ⟨⟨text, body, tail⟩, compile_eq_ok_iff.mpr ⟨rfl, hparse⟩, rfl, (assemble_eq_ok hassemble).2⟩

theorem varies_of_mem_body {body : List Piece} {s : Segment} (h : s ∈ body.map Piece.segment) :
    s.varies = false := by
  obtain ⟨piece, _, rfl⟩ := List.mem_map.mp h
  exact piece.segment_varies

/-- What varies is at the end. -/
theorem varies_of_mem_dropLast (p : Pattern) : ∀ s ∈ p.segments.dropLast, s.varies = false := by
  intro s hs
  unfold segments at hs
  cases htail : p.tail with
  | closed =>
      rw [htail, Tail.segments, List.append_nil] at hs
      exact varies_of_mem_body ((List.dropLast_sublist _).subset hs)
  | optional name default? =>
      rw [htail, Tail.segments, List.dropLast_concat] at hs
      exact varies_of_mem_body hs
  | extension stem name suffix =>
      rw [htail, Tail.segments, List.append_cons, List.dropLast_concat] at hs
      rcases List.mem_append.mp hs with hs | hs
      · exact varies_of_mem_body hs
      · obtain rfl := List.mem_singleton.mp hs
        exact stem.segment_varies

/-- An extension has its stem in front. -/
theorem stem_of_extension {p : Pattern} {before : List Segment} {name : String} {required : Bool}
    {default? : Option String}
    (h : p.segments = before ++ [.extension name required default?]) :
    ∃ stem, before.getLast? = some stem ∧ stem.varies = false := by
  unfold segments at h
  cases htail : p.tail with
  | closed =>
      rw [htail, Tail.segments, List.append_nil] at h
      have hmem : Segment.extension name required default? ∈ p.body.map Piece.segment := by
        rw [h]
        simp
      exact absurd (varies_of_mem_body hmem) (by simp [Segment.varies])
  | optional name' default?' =>
      rw [htail, Tail.segments] at h
      have hlast := (List.append_inj' h rfl).2
      simp at hlast
  | extension stem name' suffix =>
      rw [htail, Tail.segments, List.append_cons] at h
      obtain ⟨rfl, -⟩ := List.append_inj' h rfl
      exact ⟨stem.segment, List.getLast?_concat, stem.segment_varies⟩

/-- **The compiler accepts exactly the grammar.**  A text compiles if and only
if its components spell parts of which only the last varies and in which no
name stands twice.  The pattern then has the segments of these parts and no
others; one that varies is the last, and an extension stands behind its stem. -/
theorem compile_iff_grammatical (text : String) :
    ((∃ p, compile text = .ok p) ↔ ∃ parts, Grammatical text parts)
      ∧ (∀ p parts, compile text = .ok p → Grammatical text parts →
        p.source = text ∧ p.segments = parts.flatMap Part.segments)
      ∧ ∀ p, compile text = .ok p →
        (∀ s ∈ p.segments.dropLast, s.varies = false)
          ∧ ∀ before name required default?,
            p.segments = before ++ [.extension name required default?] →
            ∃ stem, before.getLast? = some stem ∧ stem.varies = false := by
  refine ⟨⟨?_, ?_⟩, ?_, ?_⟩
  · rintro ⟨p, hp⟩
    obtain ⟨parts, hgrammatical, -⟩ := grammatical_of_compile hp
    exact ⟨parts, hgrammatical⟩
  · rintro ⟨parts, hgrammatical⟩
    obtain ⟨p, hp, -⟩ := hgrammatical.compile
    exact ⟨p, hp⟩
  · intro p parts hp hgrammatical
    -- A text compiles to one pattern only, so the one from these parts is the one at hand.
    obtain ⟨p', hp', hsource, hsegments⟩ := hgrammatical.compile
    obtain rfl : p' = p := Except.ok.inj (hp'.symm.trans hp)
    exact ⟨hsource, hsegments⟩
  · exact fun p _ => ⟨p.varies_of_mem_dropLast, fun _ _ _ _ => stem_of_extension⟩

/-- A stem, a dot and an optional extension whose default has a bracket. -/
theorem compile_stem_bracket_default :
    ∃ p, compile "a/<b>.[c=[d]" = .ok p
      ∧ p.segments = [.literal "a", .required "b", .extension "c" false (some "[d")] := by
  have hgrammatical : Grammatical "a/<b>.[c=[d]"
      [.fixed (.literal "a"), .extended (.capture "b") "c" (.optional (some "[d"))] := by
    refine ⟨?_, ?_, by decide⟩
    · have hliteral := @Spells.literal ['a'] ⟨by simp, by simp [isBracket]⟩
      have hextension := @Bracketed.withDefault ['c'] ['[', 'd'] ⟨by decide, by decide⟩ (by decide)
      have hextended := @Spells.stemDotOptional ['b'] _ _ _ ⟨by decide, by decide⟩ hextension
      exact .cons hliteral (.cons hextended .nil)
    · intro part hpart
      obtain rfl := List.mem_singleton.mp hpart
      exact ⟨.literal "a", rfl⟩
  obtain ⟨hiff, hsegments, -⟩ := compile_iff_grammatical "a/<b>.[c=[d]"
  obtain ⟨p, hp⟩ := hiff.mpr ⟨_, hgrammatical⟩
  exact ⟨p, hp, (hsegments p _ hp hgrammatical).2⟩

end Pattern

end Switchyard
