/-
  Switchyard.Proofs.Route.Naming
  ──────────────────────────────
  What a default name tells of a binding.  The name is made of the pattern's
  text without any slashes in front, while a pattern drops only one of them; the
  two agree because no pattern that compiles begins with more, but for the text
  of two slashes and nothing else.

      Unnamed — the bindings that are built without a name of their own

  Main statement:

      eq_of_name_eq
-/
import Switchyard.Proofs.Route.Grammar
import Switchyard.Route.Binding

namespace Switchyard

/-! ## §1. Slashes in front. -/

namespace Text

theorem dropWhile_of_head? {cs : List Char} (h : cs.head? ≠ some '/') :
    cs.dropWhile (· = '/') = cs := by
  cases cs with
  | nil => rfl
  | cons c cs =>
      have hc : c ≠ '/' := by simpa using h
      simp [hc]

/-- What is left without slashes in front does not depend on how many there are,
unless dropping one of them leaves others. -/
theorem trimSlashes_dropWhile {cs : List Char} (h : (trimSlashes cs).head? ≠ some '/') :
    trimSlashes (cs.dropWhile (· = '/')) = trimSlashes cs := by
  -- One case for each number of slashes in front: none, one, and more.
  by_cases hfirst : cs.head? = some '/'
  case neg => rw [dropWhile_of_head? hfirst]
  obtain ⟨cs, rfl⟩ := List.head?_eq_some_iff.mp hfirst
  rw [List.dropWhile_cons_of_pos (by simp)]
  by_cases hsecond : cs.head? = some '/'
  case neg =>
      rw [dropWhile_of_head? hsecond, trimSlashes, dropLeadingSlash_of_head? hsecond]
      rfl
  obtain ⟨cs, rfl⟩ := List.head?_eq_some_iff.mp hsecond
  cases cs with
  | nil => rfl
  | cons c cs =>
      -- Two slashes with something behind them leave the second in front.
      refine absurd ?_ h
      show (dropTrailingSlash ('/' :: c :: cs)).head? = some '/'
      unfold dropTrailingSlash
      split <;> rfl

end Text

namespace Pattern

/-- No component of a pattern that compiles is empty, so its text, without the
slash in front that is dropped, does not begin with one. -/
theorem trimSlashes_head_of_parse {text : String} {parsed : List Piece × Tail}
    (h : parse text = .ok parsed) : (Text.trimSlashes text.toList).head? ≠ some '/' := by
  intro hslash
  obtain ⟨cs, hcs⟩ := List.head?_eq_some_iff.mp hslash
  have hpieces : Text.pieces '/' ('/' :: cs) = [] :: Text.pieces '/' cs := if_pos rfl
  rw [parse, hcs] at h
  obtain ⟨parts, hparts, -⟩ := of_bind_eq_ok h
  rw [hpieces, List.mapM_cons] at hparts
  obtain ⟨part, hpart, -⟩ := of_bind_eq_ok hparts
  exact absurd hpart (by simp [parsePart])

/-- **Slashes in front make no difference** to a text that is a pattern. -/
theorem parse_dropWhile {text : String} {parsed : List Piece × Tail} (h : parse text = .ok parsed) :
    parse (String.ofList (text.toList.dropWhile (· = '/'))) = .ok parsed := by
  have htrim := Text.trimSlashes_dropWhile (trimSlashes_head_of_parse h)
  rw [parse, String.toList_ofList, htrim]
  exact h

/-- So patterns whose texts differ in these only are the same. -/
theorem eq_of_dropWhile_eq {text text' : String} {p p' : Pattern} (hp : compile text = .ok p)
    (hp' : compile text' = .ok p')
    (h : p.source.toList.dropWhile (· = '/') = p'.source.toList.dropWhile (· = '/')) :
    p.body = p'.body ∧ p.tail = p'.tail := by
  obtain ⟨rfl, hparse⟩ := compile_eq_ok_iff.mp hp
  obtain ⟨rfl, hparse'⟩ := compile_eq_ok_iff.mp hp'
  have hsame := parse_dropWhile hparse
  rw [h, parse_dropWhile hparse'] at hsame
  exact (Prod.mk.inj (Except.ok.inj hsame)).imp Eq.symm Eq.symm

end Pattern

/-! ## §2. Labels. -/

/-- A filter that a request can pass: a method that it names is a token. -/
def MethodFilter.IsToken : MethodFilter → Prop
  | .any => True
  | .only method => method.IsToken

/-- A label has no space in it. -/
theorem MethodFilter.IsToken.space_not_mem {f : MethodFilter} (h : f.IsToken) :
    ' ' ∉ f.label.toList := by
  cases f with
  | any => decide
  | only method =>
      intro hspace
      have htoken := List.all_eq_true.mp h.2 ' ' hspace
      exact absurd htoken (by decide)

/-- A label tells the filter, but for the method that is spelled like any method. -/
theorem MethodFilter.eq_of_label_eq {f g : MethodFilter} (h : f.label = g.label) :
    f = g ∨ (f = .any ∧ g = .only ⟨"*"⟩) ∨ (f = .only ⟨"*"⟩ ∧ g = .any) := by
  have hlabel {m m' : Method} (h : m.token = m'.token) : only m = only m' :=
    congrArg (fun token => only ⟨token⟩) h
  cases f with
  | any =>
      cases g with
      | any => exact .inl rfl
      | only method => exact .inr (.inl ⟨rfl, hlabel h.symm⟩)
  | only method =>
      cases g with
      | any => exact .inr (.inr ⟨hlabel h, rfl⟩)
      | only method' => exact .inl (hlabel h)

/-! ## §3. Names. -/

namespace Binding

variable {η η' : Type}

/-- A default name is a label and a text, and tells both. -/
theorem defaultName_inj {f f' : MethodFilter} {p p' : Pattern} (hf : f.IsToken) (hf' : f'.IsToken)
    (h : defaultName f p = defaultName f' p') :
    f.label = f'.label
      ∧ p.source.toList.dropWhile (· = '/') = p'.source.toList.dropWhile (· = '/') := by
  have hchars (f : MethodFilter) (p : Pattern) : (defaultName f p).toList
      = f.label.toList ++ ' ' :: '/' :: p.source.toList.dropWhile (· = '/') := by
    simp [defaultName]
  -- The first space is the one behind the label.
  have hcut := Text.cutFirst?_append hf.space_not_mem ('/' :: p.source.toList.dropWhile (· = '/'))
  rw [← hchars, h, hchars, Text.cutFirst?_append hf'.space_not_mem] at hcut
  obtain ⟨hlabel, hrest⟩ := Prod.mk.inj (Option.some.inj hcut)
  exact ⟨String.toList_injective hlabel.symm, (List.cons.inj hrest).2.symm⟩

/-- The bindings that are built without a name of their own: for a pattern that
compiles, with tokens as methods. -/
inductive Unnamed : Binding η → Prop where
  | new {text : String} {p : Pattern} (compiled : Pattern.compile text = .ok p) (handler : η) :
      Unnamed (.new p handler)
  | withMethod {b : Binding η} {m : Method} (unnamed : Unnamed b) (token : m.IsToken) :
      Unnamed (b.withMethod m)
  | withCacheable {b : Binding η} (unnamed : Unnamed b) (cacheable : Bool) :
      Unnamed (b.withCacheable cacheable)

/-- What every way of building such a binding keeps. -/
theorem Unnamed.invariant {b : Binding η} (h : b.Unnamed) :
    (b.isNamed = false ∧ b.name = defaultName b.methods b.pattern) ∧ b.methods.IsToken
      ∧ ∃ text, Pattern.compile text = .ok b.pattern := by
  induction h with
  | @new text p compiled handler => exact ⟨⟨rfl, rfl⟩, trivial, text, compiled⟩
  | @withMethod b m _ token ih =>
      obtain ⟨⟨hunnamed, -⟩, -, hcompiled⟩ := ih
      exact ⟨⟨hunnamed, if_neg (by simp [hunnamed])⟩, token, hcompiled⟩
  | @withCacheable b _ cacheable ih => exact ih

/-- **Bindings with the same default name route the same.**  Let two bindings be
built without a name of their own.  If their names are equal, their patterns have
the same segments and match the same paths with the same captures, and they
accept the same methods, unless one accepts any method and the other only the one
that is spelled `*`. -/
theorem eq_of_name_eq {b : Binding η} {b' : Binding η'} (hb : b.Unnamed) (hb' : b'.Unnamed)
    (h : b.name = b'.name) :
    b.pattern.segments = b'.pattern.segments
      ∧ (∀ path, b.pattern.match? path = b'.pattern.match? path)
      ∧ (b.methods = b'.methods ∨ (b.methods = .any ∧ b'.methods = .only ⟨"*"⟩)
        ∨ (b.methods = .only ⟨"*"⟩ ∧ b'.methods = .any)) := by
  obtain ⟨⟨-, hname⟩, htoken, text, hp⟩ := hb.invariant
  obtain ⟨⟨-, hname'⟩, htoken', text', hp'⟩ := hb'.invariant
  have hdefault : defaultName b.methods b.pattern = defaultName b'.methods b'.pattern := by
    rw [← hname, ← hname', h]
  obtain ⟨hlabel, hrest⟩ := defaultName_inj htoken htoken' hdefault
  obtain ⟨hbody, htail⟩ := Pattern.eq_of_dropWhile_eq hp hp' hrest
  refine ⟨?_, fun path => ?_, MethodFilter.eq_of_label_eq hlabel⟩
  · rw [Pattern.segments, Pattern.segments, hbody, htail]
  · rw [Pattern.match?, Pattern.match?, hbody, htail]

/-- The exception: any method, and the method `*`. -/
example (p : Pattern) :
    (new p ()).name = ((new p ()).withMethod ⟨"*"⟩).name ∧ Method.IsToken ⟨"*"⟩ :=
  ⟨rfl, by decide⟩

/-- A binding for one user, under either of two texts. -/
def posted (source : String) : Binding Unit :=
  (new ⟨source, [.literal "users", .capture "id"], .closed⟩ ()).withMethod .post

/-- A text with a slash in front and one without, for the same method. -/
theorem posts_routed_alike :
    (posted "users/<id>").Unnamed ∧ (posted "/users/<id>").Unnamed
      ∧ (posted "users/<id>").name = (posted "/users/<id>").name
      ∧ ∀ path, (posted "users/<id>").pattern.match? path
        = (posted "/users/<id>").pattern.match? path := by
  have hp : Pattern.compile "users/<id>" = .ok (posted "users/<id>").pattern := by
    decide +kernel
  have hp' : Pattern.compile "/users/<id>" = .ok (posted "/users/<id>").pattern := by
    decide +kernel
  have hb : (posted "users/<id>").Unnamed := .withMethod (.new hp ()) (by decide)
  have hb' : (posted "/users/<id>").Unnamed := .withMethod (.new hp' ()) (by decide)
  have hname : (posted "users/<id>").name = (posted "/users/<id>").name := by decide +kernel
  exact ⟨hb, hb', hname, (eq_of_name_eq hb hb' hname).2.1⟩

end Binding

end Switchyard
