/-
  Switchyard.Proofs.Site.Excluded
  ───────────────────────────────
  Which static files are refused for their extension.  An excluded extension is
  compared with all of the extension that is asked for, so a name that ends in
  one is refused only where both have as many dots: behind the last dot of a
  path nothing has one, while an extension that stands in for a missing one may.

      EndsIn    — a name ends in an extension, whatever the cases
      Excluded  — the name that is asked for ends in an excluded extension, and
                  that is all of its extension

  Main statements:

      lowercase_eq_iff_endsIn — the comparison, said of the whole name
      refuses_excluded_only
-/
import Switchyard.Proofs.Site.Files

namespace Switchyard

/-! ## §1. Dots. -/

namespace Text

theorem toLower_eq_dot_iff (c : Char) : c.toLower = '.' ↔ c = '.' := by
  unfold Char.toLower
  split
  · next h =>
    -- Neither a capital letter nor the small one 32 places after it is a dot.
    have hlow := UInt32.le_iff_toNat_le.mp h.1
    have hhigh := UInt32.le_iff_toNat_le.mp h.2
    have hA : ('A'.val).toNat = 65 := rfl
    have hZ : ('Z'.val).toNat = 90 := rfl
    have hshift : ('a'.val - 'A'.val).toNat = 32 := rfl
    have hdot : ('.'.val).toNat = 46 := rfl
    constructor
    · intro heq
      have hval := congrArg (fun d : Char => d.val.toNat) heq
      simp only [UInt32.toNat_add] at hval
      omega
    · rintro rfl
      omega
  · exact Iff.rfl

/-- How many dots a text has. -/
def dots (text : String) : Nat := text.toList.count '.'

theorem dots_lowercase (text : String) : dots (lowercase text) = dots text := by
  unfold dots lowercase
  rw [String.toList_ofList]
  induction text.toList with
  | nil => rfl
  | cons c cs ih =>
      rw [List.map_cons, List.count_cons, List.count_cons, ih]
      simp [toLower_eq_dot_iff]

theorem lowercase_append (a b : String) : lowercase (a ++ b) = lowercase a ++ lowercase b := by
  apply String.toList_injective
  simp [lowercase]

/-- Two texts that stand behind a separator at one end, with as many separators
in them, are one text. -/
theorem eq_of_suffix_of_count {sep : Char} {cs a b : List Char} (ha : sep :: a <:+ cs)
    (hb : sep :: b <:+ cs) (hcount : a.count sep = b.count sep) : a = b := by
  -- Of two different texts, one stands with its separator within the other.
  have hshorter {a b : List Char} (h : sep :: a <:+ sep :: b) (hcount : a.count sep = b.count sep) :
      a = b := by
    rcases List.suffix_cons_iff.mp h with heq | hwithin
    · exact (List.cons.inj heq).2
    · have hle := hwithin.sublist.count_le sep
      rw [List.count_cons_self] at hle
      omega
  rcases List.suffix_or_suffix_of_suffix ha hb with h | h
  · exact hshorter h hcount
  · exact (hshorter h hcount.symm).symm

end Text

namespace StaticFiles

variable {α ω : Type} {params : Params}

/-! ## §2. Endings. -/

/-- A name ends in a dot and the extension, in any mix of cases. -/
def EndsIn (name extension : String) : Prop :=
  '.' :: (Text.lowercase extension).toList <:+ (Text.lowercase name).toList

instance (name extension : String) : Decidable (EndsIn name extension) :=
  inferInstanceAs (Decidable (_ <:+ _))

/-- **Two extensions are the same up to cases** exactly if a name with the one
ends in the other and they have as many dots. -/
theorem lowercase_eq_iff_endsIn (stem extension x : String) :
    Text.lowercase x = Text.lowercase extension
      ↔ EndsIn (stem ++ "." ++ extension) x ∧ Text.dots x = Text.dots extension := by
  have hname : (Text.lowercase (stem ++ "." ++ extension)).toList
      = (Text.lowercase stem).toList ++ '.' :: (Text.lowercase extension).toList := by
    rw [Text.lowercase_append, Text.lowercase_append, String.toList_append, String.toList_append,
      List.append_assoc]
    rfl
  constructor
  · intro h
    refine ⟨?_, ?_⟩
    · rw [EndsIn, hname, h]
      exact List.suffix_append _ _
    · rw [← Text.dots_lowercase x, h, Text.dots_lowercase]
  · rintro ⟨hends, hdots⟩
    rw [EndsIn, hname] at hends
    rw [← Text.dots_lowercase x, ← Text.dots_lowercase extension] at hdots
    exact String.toList_injective
      (Text.eq_of_suffix_of_count hends (List.suffix_append _ _) hdots)

/-- The name that is asked for ends in an excluded extension that has as many
dots as the extension that is asked for. -/
def Excluded (c : StaticFilesConfig) (params : Params) : Prop :=
  ∃ x ∈ c.excludeExtensions, EndsIn ((ofConfig c).fileName params) (withoutDots x)
    ∧ Text.dots (withoutDots x) = Text.dots ((ofConfig c).extension params)

theorem excluded_iff (c : StaticFilesConfig) (params : Params) :
    Excluded c params ↔ (ofConfig c).isExcluded ((ofConfig c).extension params) = true := by
  rw [isExcluded_ofConfig_iff]
  simp only [Excluded, fileName, ← lowercase_eq_iff_endsIn]

/-! ## §3. What is refused. -/

/-- Where the extension that stands in has no dot, no extension has one. -/
theorem Asked.dots_eq_zero {s : StaticFiles} (h : Asked params)
    (hdefault : '.' ∉ s.defaultExtension.toList) : Text.dots (s.extension params) = 0 := by
  refine List.count_eq_zero_of_not_mem ?_
  cases h with
  | index => exact hdefault
  | stem => exact hdefault
  | whole _ onePart => exact onePart.2.2

/-- **Which files are refused for their extension.**  A request that is routed
asks for a file by its name.

  • Where the name ends in an excluded extension that has as many dots as the
    extension that is asked for, the request is refused, whatever files there
    are.
  • Everywhere else the file is read, if its stem is plain, so also where the
    name ends in an excluded extension with more dots or fewer.
  • If the extension that stands in for a missing one has no dot, then no file is
    served whose name ends in an excluded extension without dots. -/
theorem refuses_excluded_only (c : StaticFilesConfig) (app : Handling α (Context α ω))
    {method : Method} {path : String} {b : Binding (Endpoint α)} {request : Request}
    (hresolve : (ofConfig c).routes.resolve? method path = some (b, request.params)) :
    (Excluded c request.params →
        ∀ site, Endpoint.handle app b.handler request site = site.reply .notFound)
      ∧ (¬Excluded c request.params →
        isPlainName ((ofConfig c).name request.params).toList = true →
        ∀ site, Endpoint.handle app b.handler request site
          = (ofConfig c).opened ((ofConfig c).fileName request.params)
              ((ofConfig c).extension request.params) site)
      ∧ ('.' ∉ c.defaultExtension.toList →
        ∀ x ∈ c.excludeExtensions, '.' ∉ (withoutDots x).toList →
        EndsIn ((ofConfig c).fileName request.params) (withoutDots x) →
        ∀ site, Endpoint.handle app b.handler request site = site.reply .notFound) := by
  obtain ⟨hhandler, hasked⟩ := asked_of_resolve? hresolve
  have htarget := target?_ne_none_iff (s := ofConfig c) request.params
  -- To be excluded is one of the two reasons to have no target.
  have hrefused : Excluded c request.params →
      ∀ site, Endpoint.handle app b.handler request site = site.reply .notFound := by
    intro hexcluded
    rw [excluded_iff] at hexcluded
    rw [hhandler]
    rcases handle_files app (ofConfig c) request with ⟨-, hrefused⟩ | ⟨hsome, -⟩
    · exact hrefused
    · exact absurd hexcluded (Bool.eq_false_iff.mp (htarget.mp hsome).2)
  refine ⟨hrefused, ?_, ?_⟩
  · intro hincluded hplain
    rw [excluded_iff] at hincluded
    rw [hhandler]
    rcases handle_files app (ofConfig c) request with ⟨hnone, -⟩ | ⟨-, hopened⟩
    · exact absurd hnone (htarget.mpr ⟨hplain, Bool.eq_false_iff.mpr hincluded⟩)
    · exact hopened
  · intro hdefault x hx hdot hends
    -- Neither extension has a dot then, so both have as many.
    refine hrefused ⟨x, hx, hends, ?_⟩
    rw [hasked.dots_eq_zero hdefault]
    exact List.count_eq_zero_of_not_mem hdot

/-- The extension `txt`, in capital letters, behind a stem with a dot. -/
theorem capitals_refused :
    ∃ (b : Binding (Endpoint Unit)) (params : Params),
      (ofConfig {}).routes.resolve? .get "/to.do.TXT" = some (b, params)
        ∧ ∀ site : Site (Context Unit Unit),
          Endpoint.handle (fun _ _ s => s.reply .notFound) b.handler
            { (default : Request) with params } site = site.reply .notFound := by
  have hresolve : (ofConfig {}).routes.resolve? .get "/to.do.TXT"
      = some (fileBinding (α := Unit) (ofConfig {}), [("file", "to.do"), ("extension", "TXT")]) :=
    resolve?_of_components (.inl rfl) (by decide) (by decide) (by decide) (by decide +kernel)
  refine ⟨_, _, hresolve, ?_⟩
  exact (refuses_excluded_only {} _ hresolve).2.2 (by decide) "txt" (by decide) (by decide)
    (by decide +kernel)

/-- A request for a path is routed to static files, asks for the file of a name
and is answered with success and a content. -/
def Serves (c : StaticFilesConfig) (files : FileSystem) (path name : String) (content : Bytes) :
    Prop :=
  ∃ (b : Binding (Endpoint Unit)) (params : Params),
    (ofConfig c).routes.resolve? .get path = some (b, params)
      ∧ (ofConfig c).fileName params = name
      ∧ ∀ (request : Request) (site : Site (Context Unit Unit)),
        request.params = params → site.world.files = files →
        ∃ r, Endpoint.handle (fun _ _ s => s.reply .notFound) b.handler request site = site.reply r
          ∧ r.status = .ok ∧ r.body = content

theorem serves_of_answer {c : StaticFilesConfig} {files : FileSystem} {path name : String}
    {r : Response} {params : Params}
    (hresolve : (((ofConfig c).routes : RouteTable (Endpoint Unit)).resolve? .get path).map Prod.snd
      = some params)
    (hname : (ofConfig c).fileName params = name)
    (hanswer : (ofConfig c).answer files params = .reply r) (hok : r.status = .ok) :
    Serves c files path name r.body := by
  obtain ⟨⟨b, params'⟩, hb, rfl⟩ := Option.map_eq_some_iff.mp hresolve
  refine ⟨b, params', hb, hname, ?_⟩
  rintro request site rfl rfl
  refine ⟨r, ?_, hok, rfl⟩
  rw [(asked_of_resolve? hb).1]
  show Handled.mk ((ofConfig c).answer site.world.files request.params) site [] = _
  rw [hanswer]
  rfl

/-- **A file with an excluded ending is served**: `txt` is excluded, and the
extension that stands in for a missing one is `md.txt`.  So it is with `tar.gz`
excluded and the whole name asked for, as only `gz` is the extension then. -/
theorem excluded_ending_served :
    let c : StaticFilesConfig := { root := "public", defaultExtension := "md.txt" }
    let c' : StaticFilesConfig := { root := "public", excludeExtensions := ["tar.gz"] }
    c.excludeExtensions = ["txt"] ∧ EndsIn "notes.md.txt" (withoutDots "txt")
      ∧ Serves c (FileSystem.empty.addFile "public/notes.md.txt" [104, 105]) "/notes"
        "notes.md.txt" [104, 105]
      ∧ c'.excludeExtensions = ["tar.gz"] ∧ EndsIn "backup.tar.gz" (withoutDots "tar.gz")
      ∧ Serves c' (FileSystem.empty.addFile "public/backup.tar.gz" [104, 105]) "/backup.tar.gz"
        "backup.tar.gz" [104, 105] := by
  intro c c'
  have hnotes : (ofConfig c).answer (FileSystem.empty.addFile "public/notes.md.txt" [104, 105])
      [("file", "notes")] = .reply ((Response.new .ok [104, 105]).withContentType
        "application/octet-stream") := by
    decide +kernel
  have hbackup : (ofConfig c').answer (FileSystem.empty.addFile "public/backup.tar.gz" [104, 105])
      [("file", "backup.tar"), ("extension", "gz")] = .reply
        ((Response.new .ok [104, 105]).withContentType "application/octet-stream") := by
    decide +kernel
  refine ⟨rfl, by decide +kernel, ?_, rfl, by decide +kernel, ?_⟩
  · exact serves_of_answer (by decide +kernel) (by decide +kernel) hnotes rfl
  · exact serves_of_answer (by decide +kernel) (by decide +kernel) hbackup rfl

end StaticFiles

end Switchyard
