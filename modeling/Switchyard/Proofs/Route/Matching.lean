/-
  Switchyard.Proofs.Route.Matching
  ────────────────────────────────
  What a match says.  Values are written back into a pattern component by
  component; what a pattern captures from a path is written back to the path.

      Pattern.write  — the components of a pattern with given values
      Accepts        — what holds of a match, component by component

  Main statement:

      match_sound
-/
import Switchyard.Proofs.Route.Compiled
import Switchyard.Table

namespace Switchyard

/-! ## §1. Writing values into a pattern. -/

/-- The text of a name, nothing if it has no value. -/
def Params.text (params : Params) (name : String) : String := (params.lookup name).getD ""

def Piece.write (params : Params) : Piece → String
  | .literal text => text
  | .capture name => params.text name

namespace Tail

/-- The capture that ends a pattern, if one does. -/
def last? : Tail → Option String
  | .closed => none
  | .optional name _ => some name
  | .extension _ name _ => some name

/-- Whether a path may leave the last capture out. -/
def mayBeAbsent : Tail → Bool
  | .closed => false
  | .optional _ _ => true
  | .extension _ _ .required => false
  | .extension _ _ (.optional _) => true

/-- The names that every match binds. -/
def required : Tail → List String
  | .closed => []
  | .optional _ _ => []
  | .extension stem name .required => stem.names ++ [name]
  | .extension stem _ (.optional _) => stem.names

/-- The last component, with the last capture or without it. -/
def write (params : Params) (taken : Bool) : Tail → List String
  | .closed => []
  | .optional name _ => if taken then [params.text name] else []
  | .extension stem name _ =>
      [if taken then stem.write params ++ "." ++ params.text name else stem.write params]

theorem required_subset (tail : Tail) : tail.required ⊆ tail.names := by
  cases tail with
  | closed => exact List.Subset.refl _
  | optional name default? => exact List.nil_subset _
  | extension stem name suffix =>
      cases suffix with
      | required => exact List.Subset.refl _
      | optional default? => exact List.subset_append_left _ _

theorem mem_names_of_last? {tail : Tail} {name : String} (h : tail.last? = some name) :
    name ∈ tail.names := by
  cases tail with
  | closed => simp [last?] at h
  | optional name' default? =>
      obtain rfl := Option.some.inj h
      exact List.mem_cons_self
  | extension stem name' suffix =>
      obtain rfl := Option.some.inj h
      exact List.mem_append_right _ List.mem_cons_self

end Tail

namespace Pattern

/-- The names that every match binds. -/
def required (p : Pattern) : List String := p.body.flatMap Piece.names ++ p.tail.required

/-- The components of the pattern with the values in the places of the
captures, and with the last capture or without it. -/
def write (p : Pattern) (params : Params) (taken : Bool) : List String :=
  p.body.map (Piece.write params) ++ p.tail.write params taken

end Pattern

/-- What is written depends on the values of the piece's own names only. -/
theorem Piece.write_congr {piece : Piece} {params params' : Params}
    (h : ∀ name ∈ piece.names, params.lookup name = params'.lookup name) :
    piece.write params = piece.write params' := by
  cases piece with
  | literal text => rfl
  | capture name =>
      show params.text name = params'.text name
      rw [Params.text, Params.text, h name List.mem_cons_self]

theorem Tail.write_congr {tail : Tail} {params params' : Params}
    (h : ∀ name ∈ tail.names, params.lookup name = params'.lookup name) (taken : Bool) :
    tail.write params taken = tail.write params' taken := by
  cases tail with
  | closed => rfl
  | optional name default? =>
      have hname : params.text name = params'.text name := by
        rw [Params.text, Params.text, h name List.mem_cons_self]
      rw [write, write, hname]
  | extension stem name suffix =>
      have hname : params.text name = params'.text name := by
        rw [Params.text, Params.text, h name (List.mem_append_right _ List.mem_cons_self)]
      have hstem : stem.write params = stem.write params' :=
        Piece.write_congr fun n hn => h n (List.mem_append_left _ hn)
      rw [write, write, hname, hstem]

namespace Pattern

/-- The same of a whole pattern, with the names of all its parts. -/
theorem write_congr {body : List Piece} {tail : Tail} {params params' : Params}
    (h : ∀ name ∈ body.flatMap Piece.names ++ tail.names,
      params.lookup name = params'.lookup name) (taken : Bool) :
    body.map (Piece.write params) ++ tail.write params taken
      = body.map (Piece.write params') ++ tail.write params' taken := by
  have hbody : body.map (Piece.write params) = body.map (Piece.write params') := by
    refine List.map_congr_left fun piece hpiece => Piece.write_congr fun name hn => ?_
    exact h name (List.mem_append_left _ (List.mem_flatMap.mpr ⟨piece, hpiece, hn⟩))
  rw [hbody, Tail.write_congr fun name hn => h name (List.mem_append_right _ hn)]

/-! ## §2. One component. -/

variable {piece : Piece} {component : String} {here : Params}

/-- A piece accepts its own text, or any text under its name. -/
theorem acceptPiece_cases (h : acceptPiece piece component = some here) :
    (piece = .literal component ∧ here = [])
      ∨ ∃ name, piece = .capture name ∧ here = [(name, component)] ∧ component ≠ "" := by
  cases piece with
  | literal text =>
      simp only [acceptPiece, Option.ite_none_right_eq_some, Option.some.injEq] at h
      obtain ⟨rfl, rfl⟩ := h
      exact Or.inl ⟨rfl, rfl⟩
  | capture name =>
      simp only [acceptPiece, Option.ite_none_left_eq_some, Option.some.injEq] at h
      obtain ⟨hne, rfl⟩ := h
      exact Or.inr ⟨name, rfl, rfl, hne⟩

theorem acceptPiece_names (h : acceptPiece piece component = some here) :
    here.map Prod.fst = piece.names := by
  rcases acceptPiece_cases h with ⟨rfl, rfl⟩ | ⟨name, rfl, rfl, _⟩
  · rfl
  · rfl

theorem acceptPiece_values (h : acceptPiece piece component = some here) :
    ∀ p ∈ here, p.2 = component := by
  rcases acceptPiece_cases h with ⟨rfl, rfl⟩ | ⟨name, rfl, rfl, _⟩
  · simp
  · simp

/-- The piece's name has the component as its value. -/
theorem acceptPiece_lookup (h : acceptPiece piece component = some here) (rest : Params)
    {name : String} (hn : name ∈ piece.names) :
    (here ++ rest).lookup name = some component ∧ component ≠ "" := by
  rcases acceptPiece_cases h with ⟨rfl, rfl⟩ | ⟨name', rfl, rfl, hne⟩
  · simp [Piece.names] at hn
  · obtain rfl : name = name' := List.mem_singleton.mp hn
    refine ⟨?_, hne⟩
    rw [List.singleton_append, Table.lookup_cons_if, if_pos rfl]

/-- Other names have the values that come after. -/
theorem acceptPiece_lookup_of_not_mem (h : acceptPiece piece component = some here)
    (rest : Params) {name : String} (hn : name ∉ piece.names) :
    (here ++ rest).lookup name = rest.lookup name := by
  rcases acceptPiece_cases h with ⟨rfl, rfl⟩ | ⟨name', rfl, rfl, _⟩
  · rfl
  · have hne : name ≠ name' := fun heq => hn (List.mem_singleton.mpr heq)
    rw [List.singleton_append, Table.lookup_cons_if, if_neg hne]

theorem acceptPiece_write (h : acceptPiece piece component = some here) (rest : Params) :
    piece.write (here ++ rest) = component := by
  rcases acceptPiece_cases h with ⟨rfl, rfl⟩ | ⟨name, rfl, rfl, _⟩
  · rfl
  · show Option.getD _ "" = component
    rw [(acceptPiece_lookup h rest List.mem_cons_self).1, Option.getD_some]

/-- A component is a stem and, behind its last dot, an extension, or has no
extension. -/
theorem splitExtension_cases (component : String) :
    (∃ stem extension, splitExtension component = (stem, some extension)
        ∧ component = stem ++ "." ++ extension ∧ extension ≠ "" ∧ '.' ∉ extension.toList)
      ∨ splitExtension component = (component, none) := by
  unfold splitExtension
  split
  · next c cs d ds hcut =>
      obtain ⟨htext, hdot⟩ := Text.cutLast?_eq_some hcut
      refine Or.inl ⟨_, _, rfl, ?_, ?_, ?_⟩
      · apply String.toList_injective
        rw [htext]
        simp
      · intro hempty
        have := congrArg String.toList hempty
        simp at this
      · simpa using hdot
  · exact Or.inr rfl

/-! ## §3. What holds of a match. -/

/-- What is bound where a body and a tail accept components, `taken` telling
whether the last capture was taken from them. -/
structure Accepts (body : List Piece) (tail : Tail) (components : List String)
    (params : Params) (taken : Bool) : Prop where
  /-- Names are bound in the order in which they are declared. -/
  ordered : (params.map Prod.fst).Sublist (body.flatMap Piece.names ++ tail.names)
  required : ∀ name ∈ body.flatMap Piece.names ++ tail.required,
    ∃ v, params.lookup name = some v ∧ v ≠ ""
  present : taken = true → ∀ name, tail.last? = some name →
    ∃ v, params.lookup name = some v ∧ v ≠ "" ∧ '.' ∉ v.toList
  absent : taken = false → ∀ name, tail.last? = some name →
    tail.mayBeAbsent = true ∧ params.lookup name = tail.default?
  written : body.map (Piece.write params) ++ tail.write params taken = components
  /-- A value is a piece of one component, or the default. -/
  values : ∀ p ∈ params, (∃ component ∈ components, p.2.toList ⊆ component.toList)
    ∨ tail.default? = some p.2

/-- One more piece in front, with names that nothing after it has. -/
theorem Accepts.cons {body : List Piece} {tail : Tail} {components : List String}
    {params : Params} {taken : Bool} (h : Accepts body tail components params taken)
    (hpiece : acceptPiece piece component = some here)
    (hfresh : ∀ name ∈ piece.names, name ∉ body.flatMap Piece.names ++ tail.names) :
    Accepts (piece :: body) tail (component :: components) (here ++ params) taken := by
  -- The names of the rest keep their values.
  have hrest : ∀ name ∈ body.flatMap Piece.names ++ tail.names,
      (here ++ params).lookup name = params.lookup name := fun name hn =>
    acceptPiece_lookup_of_not_mem hpiece params fun hm => hfresh name hm hn
  have hlast : ∀ name, tail.last? = some name →
      (here ++ params).lookup name = params.lookup name := fun name hn =>
    hrest name (List.mem_append_right _ (Tail.mem_names_of_last? hn))
  refine ⟨?_, ?_, ?_, ?_, ?_, ?_⟩
  · rw [List.map_append, acceptPiece_names hpiece, List.flatMap_cons, List.append_assoc]
    exact h.ordered.append_left _
  · intro name hn
    rw [List.flatMap_cons, List.append_assoc] at hn
    rcases List.mem_append.mp hn with hn | hn
    · exact ⟨component, acceptPiece_lookup hpiece params hn⟩
    · have hmem : name ∈ body.flatMap Piece.names ++ tail.names := by
        rcases List.mem_append.mp hn with hn | hn
        · exact List.mem_append_left _ hn
        · exact List.mem_append_right _ (tail.required_subset hn)
      rw [hrest name hmem]
      exact h.required name hn
  · intro ht name hn
    rw [hlast name hn]
    exact h.present ht name hn
  · intro ht name hn
    rw [hlast name hn]
    exact h.absent ht name hn
  · rw [List.map_cons, acceptPiece_write hpiece, List.cons_append, write_congr hrest, h.written]
  · intro p hp
    rcases List.mem_append.mp hp with hp | hp
    · refine Or.inl ⟨component, List.mem_cons_self, ?_⟩
      rw [acceptPiece_values hpiece p hp]
      exact List.Subset.refl _
    · rcases h.values p hp with ⟨c, hc, hsub⟩ | hd
      · exact Or.inl ⟨c, List.mem_cons_of_mem _ hc, hsub⟩
      · exact Or.inr hd

/-! ## §4. The end of a pattern. -/

theorem lookup_bindValue (name : String) (value? : Option String) :
    (bindValue name value?).lookup name = value? := by
  cases value? with
  | none => rfl
  | some v =>
      show List.lookup name [(name, v)] = some v
      rw [Table.lookup_cons_if, if_pos rfl]

theorem bindValue_names (name : String) (value? : Option String) :
    ((bindValue name value?).map Prod.fst).Sublist [name] := by
  cases value? with
  | none => exact List.nil_sublist _
  | some v => exact List.Sublist.refl _

/-- Nothing is left for an optional last capture. -/
theorem accepts_nothing (name : String) (default? : Option String) :
    Accepts [] (.optional name default?) [] (bindValue name default?) false where
  ordered := bindValue_names name default?
  required := fun _ hn => absurd hn List.not_mem_nil
  present := fun ht => absurd ht (by simp)
  absent := fun _ n hn => by
    obtain rfl : name = n := Option.some.inj hn
    exact ⟨rfl, lookup_bindValue name default?⟩
  written := rfl
  values := fun p hp => by
    obtain ⟨v, hv, rfl⟩ := List.mem_map.mp hp
    exact Or.inr (Option.mem_toList.mp hv)

/-- One component is left for it. -/
theorem accepts_plain {name : String} (default? : Option String)
    (h : isPlainName component = true) :
    Accepts [] (.optional name default?) [component] [(name, component)] true := by
  have hlookup : List.lookup name [(name, component)] = some component :=
    lookup_bindValue name (some component)
  refine ⟨List.Sublist.refl _, fun _ hn => absurd hn List.not_mem_nil, ?_, ?_, ?_, ?_⟩
  · intro _ n hn
    obtain rfl : name = n := Option.some.inj hn
    simp only [isPlainName, Bool.and_eq_true, decide_eq_true_eq, Bool.not_eq_true',
      List.contains_eq_mem, decide_eq_false_iff_not] at h
    exact ⟨component, hlookup, h⟩
  · intro ht
    simp at ht
  · show [Option.getD _ ""] = [component]
    rw [hlookup, Option.getD_some]
  · intro p hp
    obtain rfl := List.mem_singleton.mp hp
    exact Or.inl ⟨component, List.mem_cons_self, List.Subset.refl _⟩

/-- The last component is a stem with an extension. -/
theorem accepts_extension {stem : Piece} {stemText name extension : String} (suffix : Suffix)
    (hstem : acceptPiece stem stemText = some here) (hname : name ∉ stem.names)
    (hne : extension ≠ "") (hdot : '.' ∉ extension.toList) :
    Accepts [] (.extension stem name suffix) [stemText ++ "." ++ extension]
      (here ++ [(name, extension)]) true := by
  have hlookup : (here ++ [(name, extension)]).lookup name = some extension :=
    (acceptPiece_lookup_of_not_mem hstem _ hname).trans (lookup_bindValue name (some extension))
  -- In the order of `Accepts`: names, required captures, the capture that is taken, the one
  -- that is not, the components, and where the values come from.
  refine ⟨?_, ?_, ?_, ?_, ?_, ?_⟩
  · rw [List.map_append, acceptPiece_names hstem]
    exact List.Sublist.refl _
  · intro n hn
    rcases List.mem_append.mp (Tail.required_subset _ hn) with hn | hn
    · exact ⟨stemText, acceptPiece_lookup hstem _ hn⟩
    · obtain rfl := List.mem_singleton.mp hn
      exact ⟨extension, hlookup, hne⟩
  · intro _ n hn
    obtain rfl : name = n := Option.some.inj hn
    exact ⟨extension, hlookup, hne, hdot⟩
  · intro ht
    simp at ht
  · show [stem.write _ ++ "." ++ Option.getD _ ""] = _
    rw [acceptPiece_write hstem, hlookup, Option.getD_some]
  · intro p hp
    refine Or.inl ⟨_, List.mem_cons_self, ?_⟩
    rcases List.mem_append.mp hp with hp | hp
    · rw [acceptPiece_values hstem p hp]
      intro c hc
      simp [hc]
    · obtain rfl := List.mem_singleton.mp hp
      intro c hc
      simp [hc]

/-- The last component is a stem without an extension. -/
theorem accepts_stem {stem : Piece} {name : String} (default? : Option String)
    (hstem : acceptPiece stem component = some here) (hname : name ∉ stem.names) :
    Accepts [] (.extension stem name (.optional default?)) [component]
      (here ++ bindValue name default?) false := by
  -- The same order; here the last capture is not taken, and has its default.
  refine ⟨?_, ?_, ?_, ?_, ?_, ?_⟩
  · rw [List.map_append, acceptPiece_names hstem]
    exact (bindValue_names name default?).append_left _
  · intro n hn
    exact ⟨component, acceptPiece_lookup hstem _ hn⟩
  · intro ht
    simp at ht
  · intro _ n hn
    obtain rfl : name = n := Option.some.inj hn
    refine ⟨rfl, ?_⟩
    rw [acceptPiece_lookup_of_not_mem hstem _ hname, lookup_bindValue]
    rfl
  · show [stem.write _] = _
    rw [acceptPiece_write hstem]
  · intro p hp
    rcases List.mem_append.mp hp with hp | hp
    · refine Or.inl ⟨component, List.mem_cons_self, ?_⟩
      rw [acceptPiece_values hstem p hp]
      exact List.Subset.refl _
    · obtain ⟨v, hv, rfl⟩ := List.mem_map.mp hp
      exact Or.inr (Option.mem_toList.mp hv)

/-- What a tail accepts, in one of these ways. -/
theorem acceptTail_accepts {tail : Tail} {components : List String} {params : Params}
    (hn : tail.names.Nodup) (h : acceptTail tail components = some params) :
    ∃ taken, Accepts [] tail components params taken := by
  unfold acceptTail at h
  split at h
  case h_1 =>
      obtain rfl := Option.some.inj h
      exact ⟨false, List.Sublist.refl _, by simp [Tail.required], by simp, by simp [Tail.last?],
        rfl, by simp⟩
  case h_2 name default? =>
      obtain rfl := Option.some.inj h
      exact ⟨false, accepts_nothing name default?⟩
  case h_3 name default? component =>
      simp only [Option.ite_none_right_eq_some, Option.some.injEq] at h
      obtain ⟨hplain, rfl⟩ := h
      exact ⟨true, accepts_plain default? hplain⟩
  case h_4 stem name suffix component =>
      have hname : name ∉ stem.names := by
        rw [Tail.names, ← List.concat_eq_append] at hn
        exact ((List.nodup_concat _ _).mp hn).1
      rcases splitExtension_cases component with
        ⟨stemText, extension, hsplit, rfl, hne, hdot⟩ | hsplit
      · rw [hsplit] at h
        -- A required extension and one that is there bind the same.
        have hbound : (acceptPiece stem stemText).map (· ++ [(name, extension)]) = some params := by
          cases suffix with
          | required => exact h
          | optional default? => exact h
        obtain ⟨here, hstem, rfl⟩ := Option.map_eq_some_iff.mp hbound
        exact ⟨true, accepts_extension suffix hstem hname hne hdot⟩
      · rw [hsplit] at h
        cases suffix with
        | required => simp at h
        | optional default? =>
            obtain ⟨here, hstem, rfl⟩ := Option.map_eq_some_iff.mp h
            exact ⟨false, accepts_stem default? hstem hname⟩
  case h_5 => simp at h

/-! ## §5. Whole paths. -/

theorem accept_accepts {body : List Piece} {tail : Tail} {components : List String}
    {params : Params} (hn : (body.flatMap Piece.names ++ tail.names).Nodup)
    (h : accept body tail components = some params) :
    ∃ taken, Accepts body tail components params taken := by
  induction body generalizing components params with
  | nil => exact acceptTail_accepts hn h
  | cons piece body ih =>
      cases components with
      | nil => simp [accept] at h
      | cons component components =>
          rw [accept] at h
          obtain ⟨here, hhere, h⟩ := Option.bind_eq_some_iff.mp h
          obtain ⟨there, hthere, h⟩ := Option.bind_eq_some_iff.mp h
          obtain rfl := Option.some.inj h
          rw [List.flatMap_cons, List.append_assoc, List.nodup_append'] at hn
          -- No name stands twice, so this piece binds none that the rest binds.
          obtain ⟨_, hrest, hdisjoint⟩ := hn
          obtain ⟨taken, haccepts⟩ := ih hrest hthere
          exact ⟨taken, haccepts.cons hhere fun name hm => hdisjoint hm⟩

/-- The components of a path, joined by slashes, are the path without a slash
at either end. -/
theorem join_components (path : String) :
    Text.joinWith '/' ((components path).map String.toList) = Text.trimSlashes path.toList := by
  unfold components
  split
  · next hnil =>
      rw [hnil]
      rfl
  · rw [List.map_map, show String.toList ∘ String.ofList = id from funext fun cs => by simp,
      List.map_id, Text.join_pieces]

theorem noSlash_of_mem_components {path component : String} (h : component ∈ components path) :
    '/' ∉ component.toList := by
  unfold components at h
  split at h
  · simp at h
  · obtain ⟨cs, hcs, rfl⟩ := List.mem_map.mp h
    rw [String.toList_ofList]
    exact Text.not_mem_of_mem_pieces hcs

theorem mem_names_of_lookup {params : Params} {name v : String}
    (h : params.lookup name = some v) : name ∈ params.map Prod.fst := by
  obtain ⟨before, after, rfl, _⟩ := List.lookup_eq_some_iff.mp h
  simp

/-- **A match says what the path is.**  For every pattern that compiles and
every path that it matches, `taken` telling whether the last capture was taken
from the path:

  • the names that are bound are distinct and in the order of the pattern, and
    every required one is bound to a text that is not empty;
  • the last capture is unbound only if it has no default and was not taken;
  • the values written into the pattern, with the last one or without it, are
    the path but for one slash at either end;
  • a last capture that was not taken is one that may be absent, and is bound to
    its default if it has one;
  • no value has a slash in it, and a last capture that was taken is bound to a
    text that is not empty and has no dot. -/
theorem match_sound {text path : String} {p : Pattern} {params : Params}
    (hp : compile text = .ok p) (hm : p.match? path = some params) :
    ∃ taken : Bool,
      (params.map Prod.fst).Nodup ∧ (params.map Prod.fst).Sublist p.names
        ∧ (∀ name ∈ p.required, ∃ v, params.lookup name = some v ∧ v ≠ "")
        ∧ (∀ name, p.tail.last? = some name → name ∉ params.map Prod.fst →
          taken = false ∧ p.tail.default? = none)
        ∧ Text.joinWith '/' ((p.write params taken).map String.toList)
          = Text.trimSlashes path.toList
        ∧ (taken = false → ∀ name, p.tail.last? = some name →
          p.tail.mayBeAbsent = true ∧ params.lookup name = p.tail.default?)
        ∧ (∀ q ∈ params, '/' ∉ q.2.toList)
        ∧ (taken = true → ∀ name, p.tail.last? = some name →
          ∃ v, params.lookup name = some v ∧ v ≠ "" ∧ '.' ∉ v.toList) := by
  have hnodup := compile_names_nodup hp
  obtain ⟨taken, h⟩ := accept_accepts hnodup hm
  refine ⟨taken, h.ordered.nodup hnodup, h.ordered, h.required, ?_, ?_, h.absent, ?_, h.present⟩
  · intro name hlast hunbound
    cases taken with
    | true =>
        -- What was taken is bound.
        obtain ⟨v, hv, -⟩ := h.present rfl name hlast
        exact absurd (mem_names_of_lookup hv) hunbound
    | false =>
        obtain ⟨-, hdefault⟩ := h.absent rfl name hlast
        refine ⟨rfl, ?_⟩
        cases hd : p.tail.default? with
        | none => rfl
        | some v => exact absurd (mem_names_of_lookup (hdefault.trans hd)) hunbound
  · rw [write, h.written, join_components]
  · -- A value comes from a component of the path, or from one of the pattern's text.
    intro q hq hslash
    rcases h.values q hq with ⟨component, hmem, hsub⟩ | hdefault
    · exact noSlash_of_mem_components hmem (hsub hslash)
    · exact compile_default_noSlash hp hdefault hslash

/-- A stem, an extension with a default, and a slash at either end. -/
theorem match_sound_file :
    ∃ p taken, compile "files/<name>[ext=html]" = .ok p
      ∧ p.match? "/files/notes.txt/" = some [("name", "notes"), ("ext", "txt")]
      ∧ Text.joinWith '/' ((p.write [("name", "notes"), ("ext", "txt")] taken).map String.toList)
        = "files/notes.txt".toList := by
  have hp : compile "files/<name>[ext=html]" = .ok ⟨"files/<name>[ext=html]",
      [.literal "files"], .extension (.capture "name") "ext" (.optional (some "html"))⟩ := by
    decide +kernel
  have hm : match? ⟨"files/<name>[ext=html]", [.literal "files"],
      .extension (.capture "name") "ext" (.optional (some "html"))⟩ "/files/notes.txt/"
        = some [("name", "notes"), ("ext", "txt")] := by
    decide
  obtain ⟨taken, -, -, -, -, hwritten, -⟩ := match_sound hp hm
  exact ⟨_, taken, hp, hm, hwritten⟩

end Pattern

end Switchyard
