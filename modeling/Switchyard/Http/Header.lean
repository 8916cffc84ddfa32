/-
  Switchyard.Http.Header
  ──────────────────────
  Header fields.  A name is a lower-case token and a value a sequence of
  octets without control characters; both carry the proof.  `Headers` keeps
  fields in order; what a reader sees of it is `values`, the values of one
  name in their order, and each operation is described through that view.

  Main statements:

      values_set        — setting a field leaves one value of its name
      values_add        — adding a field puts its value last
      values_override   — overriding takes the other's values where it has any
-/
import Switchyard.Http.Method
import Switchyard.Text.Case
import Switchyard.Text.Utf8

namespace Switchyard

/-! ## §1. Names and values. -/

/-- Whether a text is a header name: a non-empty token of at most 65535
characters in lower case. -/
def isHeaderName (s : String) : Bool :=
  s.toList != [] && decide (s.toList.length ≤ 65535)
    && s.toList.all fun c => isTokenChar c && !c.isUpper

/-- A header name, in lower case. -/
structure HeaderName where
  text : String
  valid : isHeaderName text = true := by rfl
  deriving DecidableEq

namespace HeaderName

instance : Inhabited HeaderName := ⟨{ text := "x" }⟩

/-- The name that a text spells in any mix of cases. -/
def ofString? (s : String) : Option HeaderName :=
  let lower := Text.lowercase s
  if h : isHeaderName lower = true then some ⟨lower, h⟩ else none

def authorization : HeaderName := { text := "authorization" }
def contentType : HeaderName := { text := "content-type" }
def server : HeaderName := { text := "server" }
def xCache : HeaderName := { text := "x-cache" }
def xRequestId : HeaderName := { text := "x-request-id" }

end HeaderName

/-- An octet that may stand in a header value: a tab or no control character. -/
def isHeaderByte (b : UInt8) : Bool := b == 9 || (32 ≤ b && b != 127)

/-- An octet that every reader can take for text: a tab or printable ASCII. -/
def isPlainByte (b : UInt8) : Bool := b == 9 || (32 ≤ b && b < 127)

/-- A header value. -/
structure HeaderValue where
  bytes : Bytes
  valid : bytes.all isHeaderByte = true
  deriving DecidableEq

namespace HeaderValue

instance : Inhabited HeaderValue := ⟨⟨[], rfl⟩⟩

/-- The value with the given octets, if no control character is among them. -/
def ofBytes? (bytes : Bytes) : Option HeaderValue :=
  if h : bytes.all isHeaderByte = true then some ⟨bytes, h⟩ else none

/-- The value with the octets of a text. -/
def ofString? (s : String) : Option HeaderValue := ofBytes? (Utf8.encode s)

/-- The value of a text without control characters (empty otherwise). -/
def ofString (s : String) : HeaderValue := (ofString? s).getD default

/-- Whether the value can be read as text. -/
def isReadable (v : HeaderValue) : Bool := v.bytes.all isPlainByte

/-- The value as text, if it can be read as such. -/
def text? (v : HeaderValue) : Option String :=
  if v.isReadable then some (String.ofList (v.bytes.map fun b => Char.ofNat b.toNat)) else none

end HeaderValue

/-! ## §2. Collections of fields. -/

/-- Header fields in order; a name may stand several times. -/
structure Headers where
  fields : List (HeaderName × HeaderValue)
  deriving DecidableEq

namespace Headers

def empty : Headers := ⟨[]⟩

instance : Inhabited Headers := ⟨empty⟩

/-- The values of a name, in order. -/
def values (h : Headers) (n : HeaderName) : List HeaderValue :=
  (h.fields.filter fun f => f.1 = n).map (·.2)

/-- The first value of a name. -/
def get? (h : Headers) (n : HeaderName) : Option HeaderValue := (h.values n).head?

/-- The first value of a name as text, if there is one that can be read. -/
def text? (h : Headers) (n : HeaderName) : Option String :=
  (h.get? n).bind HeaderValue.text?

/-- The headers without any field of a name. -/
def erase (h : Headers) (n : HeaderName) : Headers := ⟨h.fields.filter fun f => f.1 ≠ n⟩

/-- The headers with one more value of a name, after those it has. -/
def add (h : Headers) (n : HeaderName) (v : HeaderValue) : Headers := ⟨h.fields ++ [(n, v)]⟩

/-- The headers with `v` as the only value of `n`. -/
def set (h : Headers) (n : HeaderName) (v : HeaderValue) : Headers := (h.erase n).add n v

/-- The headers with all fields of `g`, which take the place of the fields
that have one of their names. -/
def override (h g : Headers) : Headers :=
  ⟨(h.fields.filter fun f => !g.fields.any fun f' => f'.1 = f.1) ++ g.fields⟩

/-- The fields in the order of their names; fields of one name keep their order. -/
def sorted (h : Headers) : List (HeaderName × HeaderValue) :=
  h.fields.mergeSort fun a b => a.1.text ≤ b.1.text

@[simp] theorem values_add (h : Headers) (n m : HeaderName) (v : HeaderValue) :
    (h.add n v).values m = h.values m ++ if n = m then [v] else [] := by
  by_cases hn : n = m <;> simp [values, add, List.filter_append, hn]

@[simp] theorem values_erase (h : Headers) (n m : HeaderName) :
    (h.erase n).values m = if n = m then [] else h.values m := by
  by_cases hn : n = m
  · subst hn; simp [values, erase, List.filter_filter]
  · simp only [values, erase, List.filter_filter, hn, if_false]
    congr 1
    apply List.filter_congr
    intro f _
    by_cases hf : f.1 = m <;> simp [hf, Ne.symm hn]

@[simp] theorem values_set (h : Headers) (n m : HeaderName) (v : HeaderValue) :
    (h.set n v).values m = if n = m then [v] else h.values m := by
  by_cases hn : n = m <;> simp [set, hn]

theorem values_override (h g : Headers) (n : HeaderName) :
    (h.override g).values n = if g.values n = [] then h.values n else g.values n := by
  simp only [values, override, List.filter_append, List.filter_filter, List.map_append]
  by_cases hg : (g.fields.any fun f => decide (f.1 = n)) = true
  · have h1 : (h.fields.filter fun f =>
        decide (f.1 = n) && !(g.fields.any fun f' => decide (f'.1 = f.1))) = [] := by
      rw [List.filter_eq_nil_iff]
      intro f _
      by_cases hf : f.1 = n
      · simp only [hf]; simp [hg]
      · simp [hf]
    have h2 : (g.fields.filter fun f => decide (f.1 = n)) ≠ [] := by
      obtain ⟨f, hf, hn⟩ := List.any_eq_true.1 hg
      intro h3
      have := List.filter_eq_nil_iff.1 h3 f hf
      exact this hn
    simp [h1, h2]
  · have h1 : (h.fields.filter fun f =>
        decide (f.1 = n) && !(g.fields.any fun f' => decide (f'.1 = f.1)))
          = h.fields.filter fun f => decide (f.1 = n) := by
      apply List.filter_congr
      intro f _
      by_cases hf : f.1 = n
      · simp only [hf]; simp [hg]
      · simp [hf]
    have h2 : (g.fields.filter fun f => decide (f.1 = n)) = [] := by
      rw [List.filter_eq_nil_iff]
      intro f hf hn
      exact hg (List.any_eq_true.2 ⟨f, hf, hn⟩)
    simp [h1, h2]

end Headers

end Switchyard
