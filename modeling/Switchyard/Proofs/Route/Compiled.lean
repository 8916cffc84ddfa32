/-
  Switchyard.Proofs.Route.Compiled
  ────────────────────────────────
  What every compiled pattern has: its names are distinct, and what stands in
  for an absent capture is a piece of one component of the pattern's text.

      Piece.names, Tail.names  — the captures, in the order of the text
      Marked                   — all that cutting a component into marks can do

  Main statements:

      compile_names_nodup     — no name is declared twice
      compile_default_noSlash — a default value has no slash
-/
import Mathlib.Data.List.Nodup
import Mathlib.Data.List.TakeWhile
import Switchyard.Proofs.Fallible
import Switchyard.Proofs.Text.Pieces
import Switchyard.Route.Compile

namespace Switchyard

/-! ## §1. The names of a pattern. -/

/-- The names that a piece binds. -/
def Piece.names : Piece → List String
  | .literal _ => []
  | .capture name => [name]

/-- What is bound where an extension is absent. -/
def Suffix.default? : Suffix → Option String
  | .required => none
  | .optional default? => default?

namespace Tail

/-- The names that the end of a pattern binds, in order. -/
def names : Tail → List String
  | .closed => []
  | .optional name _ => [name]
  | .extension stem name _ => stem.names ++ [name]

/-- What stands in for the last capture where the path has none. -/
def default? : Tail → Option String
  | .closed => none
  | .optional _ default? => default?
  | .extension _ _ suffix => suffix.default?

end Tail

namespace Pattern

/-- The names of a pattern, in the order in which it declares them. -/
def names (p : Pattern) : List String := p.body.flatMap Piece.names ++ p.tail.names

/-! ## §2. Names are declared once. -/

theorem declare_nodup {names names' : List String} {name : String} (hn : names.Nodup)
    (h : declare names name = .ok names') : names'.Nodup ∧ names' = names ++ [name] := by
  unfold declare at h
  split at h
  · simp at h
  · next hnew =>
      obtain rfl : names ++ [name] = names' := Except.ok.inj h
      refine ⟨?_, rfl⟩
      rw [← List.concat_eq_append]
      exact (List.nodup_concat _ _).mpr ⟨hnew, hn⟩

theorem declarePiece_nodup {names names' : List String} {piece : Piece} (hn : names.Nodup)
    (h : declarePiece names piece = .ok names') :
    names'.Nodup ∧ names' = names ++ piece.names := by
  cases piece with
  | literal text =>
      obtain rfl : names = names' := Except.ok.inj h
      exact ⟨hn, (List.append_nil _).symm⟩
  | capture name => exact declare_nodup hn h

/-- The parts that are put together bind no name twice, nor one that was
declared before. -/
theorem assemble_nodup {names : List String} {parts : List Part} {body : List Piece}
    {tail : Tail} (hn : names.Nodup) (h : assemble names parts = .ok (body, tail)) :
    (names ++ (body.flatMap Piece.names ++ tail.names)).Nodup := by
  -- The names that are declared so far grow from part to part.
  fun_induction assemble names parts generalizing body tail with
  | case1 names =>
      obtain ⟨rfl, rfl⟩ := Prod.mk.inj (Except.ok.inj h)
      rw [show Tail.closed.names = [] from rfl]
      simpa using hn
  | case2 names name default? =>
      obtain ⟨names', hdeclared, h⟩ := of_bind_eq_ok h
      obtain ⟨rfl, rfl⟩ := Prod.mk.inj (Except.ok.inj h)
      obtain ⟨hn', rfl⟩ := declare_nodup hn hdeclared
      exact hn'
  | case3 names stem name suffix =>
      obtain ⟨names', hstem, h⟩ := of_bind_eq_ok h
      obtain ⟨names'', hdeclared, h⟩ := of_bind_eq_ok h
      obtain ⟨rfl, rfl⟩ := Prod.mk.inj (Except.ok.inj h)
      obtain ⟨hn', rfl⟩ := declarePiece_nodup hn hstem
      obtain ⟨hn'', rfl⟩ := declare_nodup hn' hdeclared
      rw [List.append_assoc] at hn''
      exact hn''
  | case4 => simp at h
  | case5 =>
      obtain ⟨_, _, h⟩ := of_bind_eq_ok h
      simp at h
  | case6 names piece parts ih =>
      obtain ⟨names', hpiece, h⟩ := of_bind_eq_ok h
      obtain ⟨⟨body', tail'⟩, hrest, h⟩ := of_bind_eq_ok h
      obtain ⟨rfl, rfl⟩ := Prod.mk.inj (Except.ok.inj h)
      obtain ⟨hn', rfl⟩ := declarePiece_nodup hn hpiece
      have hall := ih _ hn' hrest
      rw [List.append_assoc, ← List.append_assoc piece.names] at hall
      exact hall

/-- A pattern has nothing in it, or is put together from the parts that the
components of its text make. -/
theorem compile_cases {text : String} {p : Pattern} (h : compile text = .ok p) :
    (p.body = [] ∧ p.tail = .closed)
      ∨ ∃ parts, (Text.pieces '/' (Text.trimSlashes text.toList)).mapM parsePart = .ok parts
        ∧ assemble [] parts = .ok (p.body, p.tail) := by
  unfold compile at h
  split at h
  · next body tail hparse =>
      obtain rfl : ⟨text, body, tail⟩ = p := Except.ok.inj h
      unfold parse at hparse
      split at hparse
      · obtain ⟨rfl, rfl⟩ := Prod.mk.inj (Except.ok.inj hparse)
        exact Or.inl ⟨rfl, rfl⟩
      · exact Or.inr (of_bind_eq_ok hparse)
  · simp at h

/-- **No name is declared twice.** -/
theorem compile_names_nodup {text : String} {p : Pattern} (h : compile text = .ok p) :
    p.names.Nodup := by
  rcases compile_cases h with ⟨hbody, htail⟩ | ⟨parts, _, hassemble⟩
  · rw [names, hbody, htail]
    exact List.nodup_nil
  · exact assemble_nodup List.nodup_nil hassemble

/-! ## §3. The marks of a component. -/

/-- A text that may stand in brackets as a name. -/
def IsName (cs : List Char) : Prop := cs ≠ [] ∧ cs.all isNameChar = true

theorem checkName_eq_ok {cs : List Char} {name : String} (h : checkName cs = .ok name) :
    IsName cs ∧ name = String.ofList cs := by
  unfold checkName at h
  split at h
  · next hname => exact ⟨hname, (Except.ok.inj h).symm⟩
  · simp at h

/-- The marks that a component's text is cut into. -/
inductive Marked : List Char → List Mark → Prop where
  | done : Marked [] []
  | required {name rest : List Char} {ms : List Mark} (isName : IsName name)
      (more : Marked rest ms) :
      Marked ('<' :: (name ++ '>' :: rest)) (.required (String.ofList name) :: ms)
  | optional {name rest : List Char} {ms : List Mark} (isName : IsName name)
      (more : Marked rest ms) :
      Marked ('[' :: (name ++ ']' :: rest)) (.optional (String.ofList name) none :: ms)
  | withDefault {name default rest : List Char} {ms : List Mark} (isName : IsName name)
      (unclosed : ']' ∉ default) (more : Marked rest ms) :
      Marked ('[' :: (name ++ '=' :: default ++ ']' :: rest))
        (.optional (String.ofList name) (some (String.ofList default)) :: ms)
  /-- Text goes on up to the next bracket. -/
  | text {cs rest : List Char} {ms : List Mark} (nonempty : cs ≠ [])
      (plain : ∀ c ∈ cs, isBracket c = false) (longest : ∀ c ∈ rest.head?, isBracket c = true)
      (more : Marked rest ms) : Marked (cs ++ rest) (.text cs :: ms)

theorem marks_eq_ok {component : String} {cs : List Char} {ms : List Mark}
    (h : marks component cs = .ok ms) : Marked cs ms := by
  fun_induction marks component cs generalizing ms with
  | case1 =>
      obtain rfl : [] = ms := Except.ok.inj h
      exact .done
  | case2 => simp at h
  | case3 cs inner rest hcut ih =>
      obtain ⟨name, hname, h⟩ := of_bind_eq_ok h
      obtain ⟨more, hmore, h⟩ := of_bind_eq_ok h
      obtain rfl := Except.ok.inj h
      obtain ⟨hinner, rfl⟩ := checkName_eq_ok hname
      rw [(Text.cutFirst?_eq_some hcut).1]
      exact .required hinner (ih hmore)
  | case4 => simp at h
  | case5 cs inner rest hcut _ name default hdefault =>
      rename_i ih
      obtain ⟨mark, hmark, h⟩ := of_bind_eq_ok h
      obtain ⟨more, hmore, h⟩ := of_bind_eq_ok h
      obtain rfl := Except.ok.inj h
      obtain ⟨text, hname, rfl⟩ := of_map_eq_ok hmark
      obtain ⟨hisName, rfl⟩ := checkName_eq_ok hname
      obtain ⟨rfl, hunclosed⟩ := Text.cutFirst?_eq_some hcut
      obtain ⟨rfl, -⟩ := Text.cutFirst?_eq_some hdefault
      -- The first closing bracket ends the default too.
      refine .withDefault hisName (fun hm => hunclosed ?_) (ih hmore)
      exact List.mem_append_right _ (List.mem_cons_of_mem _ hm)
  | case6 cs inner rest hcut _ _ =>
      rename_i ih
      obtain ⟨mark, hmark, h⟩ := of_bind_eq_ok h
      obtain ⟨more, hmore, h⟩ := of_bind_eq_ok h
      obtain rfl := Except.ok.inj h
      obtain ⟨text, hname, rfl⟩ := of_map_eq_ok hmark
      obtain ⟨hisName, rfl⟩ := checkName_eq_ok hname
      rw [(Text.cutFirst?_eq_some hcut).1]
      exact .optional hisName (ih hmore)
  | case7 => simp at h
  | case8 c cs _ _ hc _ ih =>
      obtain ⟨more, hmore, h⟩ := of_bind_eq_ok h
      obtain rfl := Except.ok.inj h
      have hsplit : c :: cs = (c :: cs.takeWhile fun d => !isBracket d)
          ++ cs.dropWhile fun d => !isBracket d := by
        rw [List.cons_append, List.takeWhile_append_dropWhile]
      rw [hsplit]
      refine .text (by simp) ?_ ?_ (ih hmore)
      · intro d hd
        rcases List.mem_cons.mp hd with rfl | hd
        · simpa using hc
        · simpa using List.mem_takeWhile_imp hd
      · intro d hd
        have hhead := List.head?_dropWhile_not (fun d => !isBracket d) cs
        rw [Option.mem_def.mp hd] at hhead
        simpa using hhead

/-! ## §4. Defaults are pieces of the text. -/

/-- A default value is written in the component. -/
theorem Marked.default_mem {cs : List Char} {ms : List Mark} (h : Marked cs ms)
    {name d : String} (hm : Mark.optional name (some d) ∈ ms) : ∀ c ∈ d.toList, c ∈ cs := by
  induction h with
  | done => simp at hm
  | required _ _ ih =>
      intro c hc
      have := ih (by simpa using hm) c hc
      simp [this]
  | optional _ _ ih =>
      intro c hc
      have := ih (by simpa using hm) c hc
      simp [this]
  | withDefault _ _ _ ih =>
      intro c hc
      rcases List.mem_cons.mp hm with heq | hm
      · -- The default is that of the first mark, or of a later one.
        obtain ⟨-, hd⟩ := Mark.optional.inj heq
        obtain rfl := Option.some.inj hd
        simp only [String.toList_ofList] at hc
        simp [hc]
      · have := ih hm c hc
        simp [this]
  | text _ _ _ _ ih =>
      intro c hc
      have := ih (by simpa using hm) c hc
      simp [this]

/-- What stands in for the last capture of a part. -/
def Part.default? : Part → Option String
  | .fixed _ => none
  | .optional _ default? => default?
  | .extended _ _ suffix => suffix.default?

theorem partOf_default {component : String} {ms : List Mark} {part : Part} {d : String}
    (h : partOf component ms = .ok part) (hd : part.default? = some d) :
    ∃ name, Mark.optional name (some d) ∈ ms := by
  unfold partOf at h
  split at h
  -- Only these forms have brackets that a path may leave empty.
  case h_3 name default? | h_4 name default? | h_5 name default? =>
      obtain rfl := Except.ok.inj h
      obtain rfl : default? = some d := hd
      exact ⟨name, by simp⟩
  case h_7 cs name default? =>
      split at h
      · obtain rfl := Except.ok.inj h
        obtain rfl : default? = some d := hd
        exact ⟨name, by simp⟩
      · simp at h
  case h_8 =>
      -- A required extension has no default.
      split at h
      · obtain rfl := Except.ok.inj h
        simp [Part.default?, Suffix.default?] at hd
      · simp at h
  case h_1 | h_2 | h_6 =>
      obtain rfl := Except.ok.inj h
      simp [Part.default?, Suffix.default?] at hd
  case h_9 | h_10 => simp at h

theorem parsePart_default_mem {component : List Char} {part : Part} {d : String}
    (h : parsePart component = .ok part) (hd : part.default? = some d) :
    ∀ c ∈ d.toList, c ∈ component := by
  unfold parsePart at h
  split at h
  · simp at h
  · obtain ⟨ms, hms, hpart⟩ := of_bind_eq_ok h
    obtain ⟨name, hm⟩ := partOf_default hpart hd
    exact (marks_eq_ok hms).default_mem hm

/-- The default of a pattern is that of one of its parts. -/
theorem assemble_default {names : List String} {parts : List Part} {body : List Piece}
    {tail : Tail} {d : String} (h : assemble names parts = .ok (body, tail))
    (hd : tail.default? = some d) : ∃ part ∈ parts, part.default? = some d := by
  -- The tail is made from the last part, so its default is that of the last part.
  fun_induction assemble names parts generalizing body tail with
  | case1 =>
      obtain ⟨rfl, rfl⟩ := Prod.mk.inj (Except.ok.inj h)
      simp [Tail.default?] at hd
  | case2 names name default? =>
      obtain ⟨_, _, h⟩ := of_bind_eq_ok h
      obtain ⟨rfl, rfl⟩ := Prod.mk.inj (Except.ok.inj h)
      exact ⟨_, List.mem_cons_self, hd⟩
  | case3 names stem name suffix =>
      obtain ⟨_, _, h⟩ := of_bind_eq_ok h
      obtain ⟨_, _, h⟩ := of_bind_eq_ok h
      obtain ⟨rfl, rfl⟩ := Prod.mk.inj (Except.ok.inj h)
      exact ⟨_, List.mem_cons_self, hd⟩
  | case4 => simp at h
  | case5 =>
      obtain ⟨_, _, h⟩ := of_bind_eq_ok h
      simp at h
  | case6 names piece parts ih =>
      obtain ⟨names', _, h⟩ := of_bind_eq_ok h
      obtain ⟨⟨body', tail'⟩, hrest, h⟩ := of_bind_eq_ok h
      obtain ⟨rfl, rfl⟩ := Prod.mk.inj (Except.ok.inj h)
      obtain ⟨part, hpart, hdefault⟩ := ih _ hrest hd
      exact ⟨part, List.mem_cons_of_mem _ hpart, hdefault⟩

/-- **A default value has no slash**: it stands in one component of the text. -/
theorem compile_default_noSlash {text : String} {p : Pattern} {d : String}
    (h : compile text = .ok p) (hd : p.tail.default? = some d) : '/' ∉ d.toList := by
  rcases compile_cases h with ⟨_, htail⟩ | ⟨parts, hparts, hassemble⟩
  · rw [htail] at hd
    simp [Tail.default?] at hd
  · obtain ⟨part, hmem, hdefault⟩ := assemble_default hassemble hd
    obtain ⟨component, hcomponent, hpart⟩ := exists_of_mem_mapM hparts hmem
    intro hslash
    have hin : '/' ∈ component := parsePart_default_mem hpart hdefault _ hslash
    exact Text.not_mem_of_mem_pieces hcomponent hin

end Pattern

end Switchyard
