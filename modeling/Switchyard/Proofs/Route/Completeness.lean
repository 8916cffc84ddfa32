/-
  Switchyard.Proofs.Route.Completeness
  ────────────────────────────────────
  Every path that can be written from a pattern is matched, and what is
  captured is what was written.

      IsComponent    — a text that may stand between slashes
      HasExtension   — a text that is cut when an extension is looked for
      Pattern.Filled — values for the captures of a pattern

  Main statement:

      match_complete
-/
import Switchyard.Proofs.Route.Grammar
import Switchyard.Proofs.Route.Matching

namespace Switchyard

/-! ## §1. Values for the captures. -/

/-- A text that may stand between slashes. -/
def IsComponent (text : String) : Prop := text ≠ "" ∧ '/' ∉ text.toList

/-- A text with an extension of its own: what stands behind its last dot, if
there is something on either side of it. -/
def HasExtension (text : String) : Prop :=
  ∃ stem extension, text = stem ++ "." ++ extension
    ∧ stem ≠ "" ∧ extension ≠ "" ∧ '.' ∉ extension.toList

namespace Tail

/-- The names that are given values, the last one only if it is taken. -/
def given (taken : Bool) : Tail → List String
  | .closed => []
  | .optional name _ => if taken then [name] else []
  | .extension stem name _ => stem.names ++ if taken then [name] else []

/-- What the end of a pattern asks of the values: the last has no dot, and it
is left out only if it may be and if nothing in the stem is taken for it. -/
def Admits (params : Params) (taken : Bool) : Tail → Prop
  | .closed => True
  | .optional name _ => taken = true → '.' ∉ (params.text name).toList
  | .extension stem name suffix =>
      if taken then '.' ∉ (params.text name).toList
      else suffix ≠ .required ∧ ¬HasExtension (stem.write params)

/-- The binding of a last capture that is left out: its default, if it has one. -/
def standIn (tail : Tail) : Params :=
  match tail.last?, tail.default? with
  | some name, some value => [(name, value)]
  | _, _ => []

end Tail

/-- Values for the captures of a pattern in the order of its text, `taken`
telling whether the last capture, if it may be absent, is given one. -/
structure Pattern.Filled (p : Pattern) (params : Params) (taken : Bool) : Prop where
  named : params.map Prod.fst = p.body.flatMap Piece.names ++ p.tail.given taken
  values : ∀ q ∈ params, IsComponent q.2
  admitted : p.tail.Admits params taken

theorem Params.text_of_mem {params : Params} {P : String → Prop} (h : ∀ q ∈ params, P q.2)
    {name : String} (hname : name ∈ params.map Prod.fst) : P (params.text name) := by
  cases hlookup : params.lookup name with
  | none =>
      obtain ⟨q, hq, rfl⟩ := List.mem_map.mp hname
      have hne := List.lookup_eq_none_iff.mp hlookup q hq
      simp at hne
  | some v =>
      obtain ⟨before, after, rfl, -⟩ := List.lookup_eq_some_iff.mp hlookup
      rw [Params.text, hlookup]
      exact h (name, v) (by simp)

/-- What is written for a piece may stand between slashes if its literal may,
or the value of its capture. -/
theorem Piece.write_isComponent {piece : Piece} {params : Params}
    (hliteral : ∀ text, piece.segment = .literal text → IsComponent text)
    (hvalues : ∀ q ∈ params, IsComponent q.2) (hnames : piece.names ⊆ params.map Prod.fst) :
    IsComponent (piece.write params) := by
  cases piece with
  | literal text => exact hliteral text rfl
  | capture name => exact Params.text_of_mem hvalues (hnames List.mem_cons_self)

/-- What is asked of the values depends on the tail's own names only. -/
theorem Tail.Admits.congr {tail : Tail} {params params' : Params} {taken : Bool}
    (h : tail.Admits params taken)
    (hsame : ∀ name ∈ tail.names, params.lookup name = params'.lookup name) :
    tail.Admits params' taken := by
  have htext : ∀ name ∈ tail.names, params.text name = params'.text name := fun name hn => by
    rw [Params.text, Params.text, hsame name hn]
  cases tail with
  | closed => trivial
  | optional name default? =>
      rw [Admits, ← htext name List.mem_cons_self]
      exact h
  | extension stem name suffix =>
      have hstem : stem.write params = stem.write params' :=
        Piece.write_congr fun n hn => hsame n (List.mem_append_left _ hn)
      rw [Admits, ← htext name (List.mem_append_right _ List.mem_cons_self), ← hstem]
      exact h

namespace Pattern

/-! ## §2. One component. -/

/-- A component that is written from a value is accepted and gives the value. -/
theorem acceptPiece_of_write {piece : Piece} {here : Params}
    (hnames : here.map Prod.fst = piece.names) (hvalues : ∀ q ∈ here, IsComponent q.2)
    (rest : Params) : acceptPiece piece (piece.write (here ++ rest)) = some here := by
  cases piece with
  | literal text =>
      obtain rfl : here = [] := List.map_eq_nil_iff.mp hnames
      exact if_pos rfl
  | capture name =>
      obtain ⟨⟨name', v⟩, rfl, rfl⟩ := List.map_eq_singleton_iff.mp hnames
      have hwrite : (Piece.capture name').write ((name', v) :: rest) = v := by
        rw [Piece.write, Params.text, Table.lookup_cons_if, if_pos rfl]
        rfl
      have hne := (hvalues _ List.mem_cons_self).1
      rw [List.singleton_append, hwrite]
      exact if_neg hne

/-- The last dot is the one in front of a text without dots. -/
theorem splitExtension_append {stem extension : String} (hstem : stem ≠ "")
    (hextension : extension ≠ "") (hdot : '.' ∉ extension.toList) :
    splitExtension (stem ++ "." ++ extension) = (stem, some extension) := by
  have htext : (stem ++ "." ++ extension).toList = stem.toList ++ '.' :: extension.toList := by
    simp
  unfold splitExtension
  rw [htext, Text.cutLast?_append _ hdot]
  cases hs : stem.toList with
  | nil => exact absurd (String.toList_eq_nil_iff.mp hs) hstem
  | cons c cs =>
      cases he : extension.toList with
      | nil => exact absurd (String.toList_eq_nil_iff.mp he) hextension
      | cons d ds =>
          show (String.ofList (c :: cs), some (String.ofList (d :: ds))) = _
          rw [← hs, ← he, String.ofList_toList, String.ofList_toList]

/-- A text without an extension is left whole. -/
theorem splitExtension_of_not {text : String} (h : ¬HasExtension text) :
    splitExtension text = (text, none) := by
  unfold splitExtension
  split
  · next c cs d ds hcut =>
      obtain ⟨htext, hdot⟩ := Text.cutLast?_eq_some hcut
      refine absurd ⟨String.ofList (c :: cs), String.ofList (d :: ds), ?_, ?_, ?_, ?_⟩ h
      · apply String.toList_injective
        rw [htext]
        simp
      · simp [← String.toList_inj]
      · simp [← String.toList_inj]
      · simpa using hdot
  · rfl

/-! ## §3. The end of a pattern. -/

theorem text_singleton (name v : String) : Params.text [(name, v)] name = v := by
  rw [Params.text, Table.lookup_cons_if, if_pos rfl]
  rfl

/-- An optional last capture takes the value that is written for it. -/
theorem acceptTail_of_optional {name : String} {default? : Option String} {params : Params}
    {taken : Bool} (hnames : params.map Prod.fst = (Tail.optional name default?).given taken)
    (hvalues : ∀ q ∈ params, IsComponent q.2)
    (hadmits : (Tail.optional name default?).Admits params taken) :
    acceptTail (.optional name default?) ((Tail.optional name default?).write params taken)
      = some (params ++ if taken then [] else (Tail.optional name default?).standIn) := by
  cases taken with
  | true =>
      obtain ⟨⟨name', v⟩, rfl, rfl⟩ := List.map_eq_singleton_iff.mp hnames
      have hplain : isPlainName v = true := by
        have hdot : '.' ∉ (Params.text [(name', v)] name').toList := hadmits rfl
        rw [text_singleton] at hdot
        have hne := (hvalues _ List.mem_cons_self).1
        simp [isPlainName, hne, hdot]
      show acceptTail _ [Params.text _ _] = _
      rw [text_singleton]
      exact if_pos hplain
  | false =>
      obtain rfl : params = [] := List.map_eq_nil_iff.mp hnames
      cases default? with
      | none => rfl
      | some v => rfl

/-- A stem and an extension, and a stem alone, are told apart as they were
written. -/
theorem acceptTail_of_extension {stem : Piece} {name : String} {suffix : Suffix} {params : Params}
    {taken : Bool} (hnames : params.map Prod.fst = (Tail.extension stem name suffix).given taken)
    (hvalues : ∀ q ∈ params, IsComponent q.2)
    (hadmits : (Tail.extension stem name suffix).Admits params taken)
    (hnodup : (Tail.extension stem name suffix).names.Nodup)
    (hliteral : ∀ text, stem.segment = .literal text → IsComponent text) :
    acceptTail (.extension stem name suffix)
        ((Tail.extension stem name suffix).write params taken)
      = some (params ++ if taken then [] else (Tail.extension stem name suffix).standIn) := by
  obtain ⟨here, last, rfl, hhere, hlast⟩ := List.map_eq_append_iff.mp hnames
  have haccept : acceptPiece stem (stem.write (here ++ last)) = some here :=
    acceptPiece_of_write hhere (fun q hq => hvalues q (List.mem_append_left _ hq)) last
  cases taken with
  | true =>
      obtain ⟨⟨name', v⟩, rfl, rfl⟩ := List.map_eq_singleton_iff.mp hlast
      -- The stem's capture has another name, so the extension's value is found.
      have hfresh : name' ∉ stem.names := by
        rw [Tail.names, ← List.concat_eq_append] at hnodup
        exact ((List.nodup_concat _ _).mp hnodup).1
      have htext : Params.text (here ++ [(name', v)]) name' = v := by
        rw [Params.text, acceptPiece_lookup_of_not_mem haccept _ hfresh]
        exact text_singleton name' v
      have hdot : '.' ∉ v.toList := by
        have hadmits' : '.' ∉ (Params.text (here ++ [(name', v)]) name').toList := hadmits
        rwa [htext] at hadmits'
      have hv : v ≠ "" := (hvalues (name', v) (by simp)).1
      have hstem : stem.write (here ++ [(name', v)]) ≠ "" := by
        refine (Piece.write_isComponent hliteral hvalues fun n hn => ?_).1
        rw [List.map_append, hhere]
        exact List.mem_append_left _ hn
      show acceptTail _ [_ ++ "." ++ Params.text _ _] = _
      rw [htext, acceptTail, splitExtension_append hstem hv hdot]
      cases suffix with
      | required => simp [haccept]
      | optional default? => simp [haccept, bindValue]
  | false =>
      obtain rfl : last = [] := List.map_eq_nil_iff.mp hlast
      rw [List.append_nil] at haccept hadmits ⊢
      obtain ⟨hsuffix, hwhole⟩ : suffix ≠ .required ∧ ¬HasExtension (stem.write here) := hadmits
      show acceptTail _ [stem.write _] = _
      rw [acceptTail, splitExtension_of_not hwhole]
      cases suffix with
      | required => exact absurd rfl hsuffix
      | optional default? =>
          have hbound : bindValue name default?
              = (Tail.extension stem name (.optional default?)).standIn := by
            cases default? with
            | none => rfl
            | some v => rfl
          simp [haccept, hbound]

/-- The end of a pattern accepts what is written from it. -/
theorem acceptTail_of_write {tail : Tail} {params : Params} {taken : Bool}
    (hnames : params.map Prod.fst = tail.given taken) (hvalues : ∀ q ∈ params, IsComponent q.2)
    (hadmits : tail.Admits params taken) (hnodup : tail.names.Nodup)
    (hliteral : ∀ text, .literal text ∈ tail.segments → IsComponent text) :
    acceptTail tail (tail.write params taken)
      = some (params ++ if taken then [] else tail.standIn) := by
  cases tail with
  | closed =>
      obtain rfl : params = [] := List.map_eq_nil_iff.mp hnames
      cases taken with
      | true => rfl
      | false => rfl
  | optional name default? => exact acceptTail_of_optional hnames hvalues hadmits
  | extension stem name suffix =>
      refine acceptTail_of_extension hnames hvalues hadmits hnodup fun text htext => ?_
      exact hliteral text (by simp [Tail.segments, htext])

/-! ## §4. All components. -/

/-- A pattern accepts the components that are written from it. -/
theorem accept_of_write {body : List Piece} {tail : Tail} {params : Params} {taken : Bool}
    (hnames : params.map Prod.fst = body.flatMap Piece.names ++ tail.given taken)
    (hvalues : ∀ q ∈ params, IsComponent q.2) (hadmits : tail.Admits params taken)
    (hnodup : (body.flatMap Piece.names ++ tail.names).Nodup)
    (hliteral : ∀ text, .literal text ∈ tail.segments → IsComponent text) :
    accept body tail (body.map (Piece.write params) ++ tail.write params taken)
      = some (params ++ if taken then [] else tail.standIn) := by
  induction body generalizing params with
  | nil => exact acceptTail_of_write hnames hvalues hadmits hnodup hliteral
  | cons piece body ih =>
      rw [List.flatMap_cons, List.append_assoc] at hnames hnodup
      obtain ⟨here, there, rfl, hhere, hthere⟩ := List.map_eq_append_iff.mp hnames
      obtain ⟨_, hrest, hdisjoint⟩ := List.nodup_append'.mp hnodup
      have hhead : acceptPiece piece (piece.write (here ++ there)) = some here :=
        acceptPiece_of_write hhere (fun q hq => hvalues q (List.mem_append_left _ hq)) there
      -- No name stands twice, so the rest is written from its own values.
      have hsame : ∀ name ∈ body.flatMap Piece.names ++ tail.names,
          (here ++ there).lookup name = there.lookup name := fun name hn =>
        acceptPiece_lookup_of_not_mem hhead there fun hm => hdisjoint hm hn
      have hsameTail : ∀ name ∈ tail.names, (here ++ there).lookup name = there.lookup name :=
        fun name hn => hsame name (List.mem_append_right _ hn)
      have haccept := ih hthere (fun q hq => hvalues q (List.mem_append_right _ hq))
        (hadmits.congr hsameTail) hrest
      rw [List.map_cons, List.cons_append, write_congr hsame, accept, hhead,
        Option.bind_eq_bind, Option.bind_some, haccept, List.append_assoc]
      rfl

/-- A literal that a component spells is a piece of the component's text. -/
theorem Spells.literal_subset {cs : List Char} {part : Part} (h : Spells cs part) {text : String}
    (hliteral : .literal text ∈ part.segments) : text ≠ "" ∧ text.toList ⊆ cs := by
  cases h with
  | literal plain =>
      obtain rfl : text = String.ofList cs := by simpa [Part.segments, Piece.segment] using hliteral
      exact ⟨by simpa using plain.1, by simp⟩
  | textOptional plain stem bracketed =>
      obtain rfl : text = String.ofList (dropFinalDot _) := by
        simpa [Part.segments, Piece.segment, Suffix.segment] using hliteral
      refine ⟨by simpa using stem, ?_⟩
      rw [String.toList_ofList]
      refine List.Subset.trans ?_ (List.subset_append_left _ _)
      unfold dropFinalDot
      split
      · exact (List.dropLast_sublist _).subset
      · exact List.Subset.refl _
  | textRequired plain isName =>
      obtain rfl : text = String.ofList _ := by
        simpa [Part.segments, Piece.segment, Suffix.segment] using hliteral
      exact ⟨by simpa using plain.1, by simp⟩
  -- The others have no literal.
  | capture | optional | stemOptional | stemDotOptional | stemRequired =>
      simp [Part.segments, Piece.segment, Suffix.segment] at hliteral

/-- A literal of a compiled pattern may stand between slashes. -/
theorem isComponent_of_literal {text t : String} {p : Pattern} (h : compile text = .ok p)
    (ht : .literal t ∈ p.segments) : IsComponent t := by
  obtain ⟨parts, hgrammatical, hsegments⟩ := grammatical_of_compile h
  rw [hsegments] at ht
  obtain ⟨part, hpart, hliteral⟩ := List.mem_flatMap.mp ht
  have hparsed := mapM_eq_ok_iff.mpr (hgrammatical.spelled.imp fun _ _ => parsePart_eq_ok_iff.mpr)
  obtain ⟨cs, hcs, hspells⟩ := exists_of_mem_mapM hparsed hpart
  obtain ⟨component, hcomponent, rfl⟩ := List.mem_map.mp hcs
  obtain ⟨hne, hsubset⟩ := (parsePart_eq_ok_iff.mp hspells).literal_subset hliteral
  exact ⟨hne, fun hslash => noSlash_of_mem_components hcomponent (hsubset hslash)⟩

/-- What is written for the pieces of a body may stand between slashes. -/
theorem isComponent_of_mem_body {body : List Piece} {params : Params}
    (hliteral : ∀ t, .literal t ∈ body.map Piece.segment → IsComponent t)
    (hvalues : ∀ q ∈ params, IsComponent q.2)
    (hnames : body.flatMap Piece.names ⊆ params.map Prod.fst) :
    ∀ w ∈ body.map (Piece.write params), IsComponent w := by
  intro w hw
  obtain ⟨piece, hpiece, rfl⟩ := List.mem_map.mp hw
  refine Piece.write_isComponent (fun t ht => ?_) hvalues fun n hn => ?_
  · exact hliteral t (List.mem_map.mpr ⟨piece, hpiece, ht⟩)
  · exact hnames (List.mem_flatMap.mpr ⟨piece, hpiece, hn⟩)

/-- Every component that is written may stand between slashes. -/
theorem isComponent_of_mem_write {p : Pattern} {params : Params} {taken : Bool}
    (hfilled : p.Filled params taken) (hliteral : ∀ t, .literal t ∈ p.segments → IsComponent t) :
    ∀ w ∈ p.write params taken, IsComponent w := by
  intro w hw
  have hnames := hfilled.named
  have hvalues := hfilled.values
  -- What is written comes from the body or from the tail.
  rcases List.mem_append.mp hw with hw | hw
  · refine isComponent_of_mem_body (fun t ht => ?_) hvalues (fun n hn => ?_) w hw
    · exact hliteral t (List.mem_append_left _ ht)
    · rw [hnames]
      exact List.mem_append_left _ hn
  · have hgiven : ∀ n ∈ p.tail.given taken, IsComponent (params.text n) := fun n hn =>
      Params.text_of_mem hvalues (hnames ▸ List.mem_append_right _ hn)
    have htail : ∀ t, .literal t ∈ p.tail.segments → IsComponent t := fun t ht =>
      hliteral t (List.mem_append_right _ ht)
    cases hp : p.tail with
    | closed =>
        rw [hp] at hw
        simp [Tail.write] at hw
    | optional name default? =>
        rw [hp] at hw hgiven
        cases taken with
        | true =>
            obtain rfl := List.mem_singleton.mp hw
            exact hgiven name List.mem_cons_self
        | false => simp [Tail.write] at hw
    | extension stem name suffix =>
        rw [hp] at hw hgiven htail
        -- The last component is the stem, with or without a dot and the value behind it.
        have hstem : IsComponent (stem.write params) := by
          refine Piece.write_isComponent (fun t ht => ?_) hvalues fun n hn => ?_
          · exact htail t (by simp [Tail.segments, ht])
          · rw [hnames, hp]
            exact List.mem_append_right _ (List.mem_append_left _ hn)
        obtain rfl := List.mem_singleton.mp hw
        cases taken with
        | true =>
            have hname : IsComponent (params.text name) :=
              hgiven name (List.mem_append_right _ List.mem_cons_self)
            show IsComponent (_ ++ "." ++ _)
            refine ⟨?_, ?_⟩
            · simp [hstem.1]
            · simp [hstem.2, hname.2]
        | false => exact hstem

/-- Components that are joined between slashes are found again. -/
theorem components_slashed {ws : List String} (h : ∀ w ∈ ws, IsComponent w)
    (leading trailing : Bool) :
    components (String.ofList (Text.slashed leading trailing
      (Text.joinWith '/' (ws.map String.toList)))) = ws := by
  have hpieces : ∀ cs ∈ ws.map String.toList, cs ≠ [] ∧ '/' ∉ cs := by
    intro cs hcs
    obtain ⟨w, hw, rfl⟩ := List.mem_map.mp hcs
    exact ⟨fun hempty => (h w hw).1 (String.toList_eq_nil_iff.mp hempty), (h w hw).2⟩
  obtain ⟨hfirst, hlast⟩ := Text.joinWith_ends hpieces
  unfold components
  rw [String.toList_ofList, Text.trimSlashes_slashed leading trailing hfirst hlast]
  cases ws with
  | nil => rfl
  | cons w ws =>
      have hcut := Text.pieces_join (by simp) fun cs hcs => (hpieces cs hcs).2
      split
      · next hnil =>
          -- The empty text has one piece, and that is empty.
          rw [hnil] at hcut
          have hw : [] = w.toList := (List.cons.inj hcut).1
          exact absurd (String.toList_eq_nil_iff.mp hw.symm) (h w List.mem_cons_self).1
      · rw [hcut, List.map_map, show String.ofList ∘ String.toList = id from
          funext fun s => String.ofList_toList, List.map_id]

/-- **What is written is matched.**  Let values be given for the captures of a
pattern that compiles: texts that may stand between slashes, one for each in
the order of the pattern, the last without a dot or, if it may be absent and
the stem has no extension of its own, left out.  Then the path that they make,
with or without a slash at either end, is matched, and what is captured are
these values and, in place of one that was left out, its default. -/
theorem match_complete {text : String} {p : Pattern} (hp : compile text = .ok p)
    {params : Params} {taken : Bool} (hfilled : p.Filled params taken) (leading trailing : Bool) :
    p.match? (String.ofList (Text.slashed leading trailing
        (Text.joinWith '/' ((p.write params taken).map String.toList))))
      = some (params ++ if taken then [] else p.tail.standIn) := by
  -- Literals come from the components of a text, so they may stand between slashes.
  have hliteral : ∀ t, .literal t ∈ p.segments → IsComponent t := fun _ =>
    isComponent_of_literal hp
  rw [match?, components_slashed (isComponent_of_mem_write hfilled hliteral)]
  exact accept_of_write hfilled.named hfilled.values hfilled.admitted (compile_names_nodup hp)
    fun t ht => hliteral t (List.mem_append_right _ ht)

/-- A stem with a dot of its own and an extension, and a stem alone. -/
theorem match_complete_assets :
    ∃ p, compile "assets/<file>.[ext=js]" = .ok p
      ∧ p.match? "/assets/jquery.min.css/" = some [("file", "jquery.min"), ("ext", "css")]
      ∧ p.match? "assets/jquery" = some [("file", "jquery"), ("ext", "js")] := by
  have hp : compile "assets/<file>.[ext=js]" = .ok ⟨"assets/<file>.[ext=js]",
      [.literal "assets"], .extension (.capture "file") "ext" (.optional (some "js"))⟩ := by
    decide +kernel
  refine ⟨_, hp, ?_, ?_⟩
  · refine @match_complete _ _ hp [("file", "jquery.min"), ("ext", "css")] true
      ⟨rfl, ?_, ?_⟩ true true
    · unfold IsComponent
      decide
    · show '.' ∉ "css".toList
      decide
  · refine @match_complete _ _ hp [("file", "jquery")] false ⟨rfl, ?_, ?_⟩ false false
    · unfold IsComponent
      decide
    · refine ⟨by simp, ?_⟩
      rintro ⟨stem, extension, htext, -⟩
      have hdot : '.' ∈ "jquery".toList := by
        rw [show "jquery" = stem ++ "." ++ extension from htext]
        simp
      revert hdot
      decide

end Pattern

end Switchyard
