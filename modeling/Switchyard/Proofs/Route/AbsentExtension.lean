/-
  Switchyard.Proofs.Route.AbsentExtension
  ───────────────────────────────────────
  Paths that leave an optional extension out.  The last component of a path is
  cut at its last dot before its stem is looked at, so a literal stem with a dot
  of its own is cut apart where it stands alone.

  Main statements:

      match_absent_extension_iff — such a path is matched if the stem is not cut
      match_archive              — one that is not matched
-/
import Switchyard.Proofs.Route.Completeness

namespace Switchyard

/-- A text without a dot has no extension. -/
theorem not_hasExtension_of_not_mem {text : String} (h : '.' ∉ text.toList) :
    ¬HasExtension text := by
  rintro ⟨stem, extension, rfl, -⟩
  exact h (by simp)

namespace Pattern

/-- What the tail refuses, the whole pattern refuses. -/
theorem accept_eq_none {body : List Piece} {tail : Tail} {before rest : List String}
    (hlength : before.length = body.length) (hrest : acceptTail tail rest = none) :
    accept body tail (before ++ rest) = none := by
  induction body generalizing before with
  | nil =>
      obtain rfl := List.length_eq_zero_iff.mp hlength
      exact hrest
  | cons piece body ih =>
      cases before with
      | nil => simp at hlength
      | cons component before =>
          rw [List.cons_append, accept, ih (Nat.succ.inj hlength)]
          cases acceptPiece piece component with
          | none => rfl
          | some here => rfl

/-- A literal stem with an extension of its own is not recognized alone. -/
theorem acceptTail_of_hasExtension {stem : String} (h : HasExtension stem) (name : String)
    (default? : Option String) :
    acceptTail (.extension (.literal stem) name (.optional default?)) [stem] = none := by
  obtain ⟨front, extension, rfl, hfront, hextension, hdot⟩ := h
  have hshort : front ≠ front ++ "." ++ extension := by
    intro heq
    have hlength := congrArg (fun s => s.toList.length) heq
    simp at hlength
  simp [acceptTail, splitExtension_append hfront hextension hdot, acceptPiece, hshort]

/-- A pattern whose literal stem has an extension of its own always takes another
from the path: its default stands in for nothing. -/
theorem taken_of_hasExtension {text path : String} {p : Pattern} {stem name : String}
    {default? : Option String} {params : Params} (hp : compile text = .ok p)
    (htail : p.tail = .extension (.literal stem) name (.optional default?))
    (hstem : HasExtension stem) (hm : p.match? path = some params) :
    ∃ v, params.lookup name = some v ∧ components path = p.write params true := by
  obtain ⟨taken, h⟩ := accept_accepts (compile_names_nodup hp) hm
  cases taken with
  | true =>
      obtain ⟨v, hv, -⟩ := h.present rfl name (by rw [htail]; rfl)
      exact ⟨v, hv, h.written.symm⟩
  | false =>
      -- Written without it, the path would end in the stem alone.
      have hlength : (p.body.map (Piece.write params)).length = p.body.length := by simp
      have hnone := accept_eq_none hlength (acceptTail_of_hasExtension hstem name default?)
      have hwritten := h.written
      rw [htail] at hwritten
      rw [match?, htail, ← hwritten] at hm
      exact absurd (hnone.symm.trans hm) (by simp)

/-- A stem without one is recognized alone, and the default is bound. -/
theorem accept_of_not_hasExtension {text : String} {p : Pattern} {stem name : String}
    {default? : Option String} {params : Params} (hp : compile text = .ok p)
    (htail : p.tail = .extension (.literal stem) name (.optional default?))
    (hstem : ¬HasExtension stem) (hnames : params.map Prod.fst = p.body.flatMap Piece.names)
    (hvalues : ∀ q ∈ params, IsComponent q.2) :
    accept p.body p.tail (p.write params false) = some (params ++ bindValue name default?) := by
  have hgiven : params.map Prod.fst = p.body.flatMap Piece.names ++ p.tail.given false := by
    rw [htail, hnames]
    exact (List.append_nil _).symm
  have hadmits : p.tail.Admits params false := by
    rw [htail]
    exact ⟨by simp, hstem⟩
  have hstandIn : p.tail.standIn = bindValue name default? := by
    rw [htail]
    cases default? with
    | none => rfl
    | some v => rfl
  rw [← hstandIn]
  exact accept_of_write hgiven hvalues hadmits (compile_names_nodup hp) fun t ht =>
    isComponent_of_literal hp (List.mem_append_right _ ht)

/-- What is written without the extension is a path's components. -/
theorem components_absent {text : String} {p : Pattern} {stem name : String} {suffix : Suffix}
    {params : Params} (hp : compile text = .ok p)
    (htail : p.tail = .extension (.literal stem) name suffix)
    (hnames : params.map Prod.fst = p.body.flatMap Piece.names)
    (hvalues : ∀ q ∈ params, IsComponent q.2) (leading trailing : Bool) :
    components (String.ofList (Text.slashed leading trailing
      (Text.joinWith '/' ((p.write params false).map String.toList)))) = p.write params false := by
  refine components_slashed (fun w hw => ?_) leading trailing
  rcases List.mem_append.mp hw with hw | hw
  · refine isComponent_of_mem_body (fun t ht => ?_) hvalues (fun n hn => hnames ▸ hn) w hw
    exact isComponent_of_literal hp (List.mem_append_left _ ht)
  · rw [htail] at hw
    have hliteral : .literal stem ∈ p.tail.segments := by simp [htail, Tail.segments, Piece.segment]
    rw [List.mem_singleton.mp hw]
    exact isComponent_of_literal hp (List.mem_append_right _ hliteral)

/-- **A path without the extension is matched exactly if the stem has none of its
own.**  Let a pattern compile that ends in a literal stem and an optional
extension, and let texts that may stand between slashes be given for its
captures.  The path that they make with the stem alone, with or without a slash
at either end, is matched if nothing in the stem is taken for an extension;
then these values are captured, and the default if there is one.  Otherwise it
is not matched, and no path is matched that leaves the extension out. -/
theorem match_absent_extension_iff {text : String} {p : Pattern} {stem name : String}
    {default? : Option String} {params : Params} (hp : compile text = .ok p)
    (htail : p.tail = .extension (.literal stem) name (.optional default?))
    (hnames : params.map Prod.fst = p.body.flatMap Piece.names)
    (hvalues : ∀ q ∈ params, IsComponent q.2) (leading trailing : Bool) :
    let path := String.ofList (Text.slashed leading trailing
      (Text.joinWith '/' ((p.body.map (Piece.write params) ++ [stem]).map String.toList)))
    (p.match? path = some (params ++ bindValue name default?) ↔ ¬HasExtension stem)
      ∧ (p.match? path = none ↔ HasExtension stem)
      ∧ (HasExtension stem → ∀ other bound, p.match? other = some bound →
        ∃ v, bound.lookup name = some v ∧ components other = p.write bound true) := by
  intro path
  -- The path is what the pattern writes when its extension is left out.
  have hwrite : p.body.map (Piece.write params) ++ [stem] = p.write params false := by
    rw [write, htail]
    rfl
  have hpath : p.match? path = accept p.body p.tail (p.body.map (Piece.write params) ++ [stem]) := by
    show accept p.body p.tail (components path) = _
    rw [hwrite, ← components_absent hp htail hnames hvalues leading trailing, ← hwrite]
  have hrefused (h : HasExtension stem) : p.match? path = none := by
    rw [hpath, htail]
    exact accept_eq_none (by simp) (acceptTail_of_hasExtension h name default?)
  have hmatched (h : ¬HasExtension stem) :
      p.match? path = some (params ++ bindValue name default?) := by
    rw [hpath, hwrite]
    exact accept_of_not_hasExtension hp htail h hnames hvalues
  -- Whether the stem has an extension decides, and the two outcomes exclude each other.
  refine ⟨⟨fun hm h => ?_, hmatched⟩, ⟨fun hm => ?_, hrefused⟩, fun h other bound hm => ?_⟩
  · exact absurd ((hrefused h).symm.trans hm) (by simp)
  · by_contra h
    exact absurd ((hmatched h).symm.trans hm) (by simp)
  · exact taken_of_hasExtension hp htail h hm

/-- A stem without a dot, alone. -/
theorem match_favicon :
    ∃ p, compile "icons/<size>/favicon.[ext=ico]" = .ok p
      ∧ p.match? "/icons/16/favicon" = some [("size", "16"), ("ext", "ico")] := by
  have hp : compile "icons/<size>/favicon.[ext=ico]" = .ok ⟨"icons/<size>/favicon.[ext=ico]",
      [.literal "icons", .capture "size"],
      .extension (.literal "favicon") "ext" (.optional (some "ico"))⟩ := by
    decide +kernel
  have hvalues : ∀ q ∈ ([("size", "16")] : Params), IsComponent q.2 := by
    unfold IsComponent
    decide
  have hstem : ¬HasExtension "favicon" := not_hasExtension_of_not_mem (by decide)
  exact ⟨_, hp, (match_absent_extension_iff hp rfl rfl hvalues true false).1.mpr hstem⟩

/-- **A stem with an extension of its own, alone, is not matched**, although there
is a default for the other one. -/
theorem match_archive :
    ∃ p, compile "archive.tar[ext=gz]" = .ok p
      ∧ p.tail = .extension (.literal "archive.tar") "ext" (.optional (some "gz"))
      ∧ p.match? "archive.tar" = none
      ∧ p.match? "archive.tar.gz" = some [("ext", "gz")] := by
  refine ⟨⟨"archive.tar[ext=gz]", [],
    .extension (.literal "archive.tar") "ext" (.optional (some "gz"))⟩, ?_⟩
  decide +kernel

end Pattern

end Switchyard
