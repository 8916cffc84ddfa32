/-
  Switchyard.Proofs.Cache.Interchange
  ───────────────────────────────────
  What two requests with one cache key have in common.  A key keeps the items
  of a query but not their order, and nothing else is lost of what it is made
  from.  A name that is looked up has the value of its first piece; so a name
  with two values tells such requests apart.

      Query.values  — the values of a name, in the order of the pieces
      Query.Settled — a name whose value the order does not change

  Main statements:

      new_eq_of_perm          — the same items in any order make the same key
      new_eq_new_iff          — when two keys are equal
      same_key_same_param_iff — what is looked up is settled by the key exactly
                                if the name is settled
      same_key_other_param    — a name that is not
-/
import Mathlib.Data.List.Perm.Basic
import Switchyard.Proofs.Cache.CanonicalQuery
import Switchyard.Table

namespace Switchyard

/-! ## §1. The values of a name. -/

namespace Query

/-- The values that a name has in some pieces, in their order. -/
def values (pieces : List String) (name : String) : List String :=
  ((pieces.map nameValue).filter fun nv => nv.1 = name).map Prod.snd

theorem mem_values {pieces : List String} {name v : String} :
    v ∈ values pieces name ↔ ∃ piece ∈ pieces, nameValue piece = (name, v) := by
  unfold values
  constructor
  · intro h
    obtain ⟨⟨name', v'⟩, hmem, rfl⟩ := List.mem_map.mp h
    obtain ⟨hmem, hname⟩ := List.mem_filter.mp hmem
    obtain ⟨piece, hpiece, hnv⟩ := List.mem_map.mp hmem
    obtain rfl : name' = name := by simpa using hname
    exact ⟨piece, hpiece, hnv⟩
  · rintro ⟨piece, hpiece, hnv⟩
    refine List.mem_map.mpr ⟨(name, v), List.mem_filter.mpr ⟨?_, by simp⟩, rfl⟩
    exact List.mem_map.mpr ⟨piece, hpiece, hnv⟩

theorem values_cons (piece : String) (pieces : List String) (name : String) :
    values (piece :: pieces) name
      = if (nameValue piece).1 = name then (nameValue piece).2 :: values pieces name
        else values pieces name := by
  by_cases h : (nameValue piece).1 = name
  · simp [values, h]
  · simp [values, h]

theorem values_perm {pieces pieces' : List String} (h : pieces.Perm pieces') (name : String) :
    (values pieces name).Perm (values pieces' name) :=
  ((h.map nameValue).filter _).map Prod.snd

/-- Empty pieces have the empty name only. -/
theorem values_filter {name : String} (h : name ≠ "") (pieces : List String) :
    values (pieces.filter (· ≠ "")) name = values pieces name := by
  induction pieces with
  | nil => rfl
  | cons piece pieces ih =>
      by_cases hpiece : piece = ""
      · subst hpiece
        have hname : (nameValue "").1 ≠ name := fun heq => h heq.symm
        rw [List.filter_cons_of_neg (by simp), ih, values_cons, if_neg hname]
      · rw [List.filter_cons_of_pos (by simpa using hpiece), values_cons, values_cons, ih]

/-- A look-up finds the first value. -/
theorem lookup_eq_head? (query name : String) :
    lookup query name = (values (Text.split '&' query) name).head? := by
  unfold lookup
  -- Pieces of another name are passed over on either side.
  induction Text.split '&' query with
  | nil => rfl
  | cons piece pieces ih =>
      rcases hnv : nameValue piece with ⟨name', v⟩
      rw [List.map_cons, values_cons, hnv, Table.lookup_cons_if, ih]
      by_cases hname : name' = name
      · rw [if_pos hname, if_pos hname.symm]
        rfl
      · rw [if_neg hname, if_neg (Ne.symm hname)]

/-- A name whose value does not depend on the order of the items: they give it
one value at most.  The empty name, which empty pieces have too, must have the
empty value from an item already. -/
structure Settled (items : List String) (name : String) : Prop where
  single : ∀ v ∈ values items name, ∀ v' ∈ values items name, v = v'
  empty : name = "" → "" ∈ values items name

theorem head?_of_all {v : String} {vs : List String} (hv : v ∈ vs) (hall : ∀ w ∈ vs, w = v) :
    vs.head? = some v := by
  cases vs with
  | nil => simp at hv
  | cons w ws => rw [List.head?_cons, hall w List.mem_cons_self]

/-- What is found under a settled name is what the items say. -/
theorem Settled.lookup_eq {query? : Option String} {name : String}
    (h : Settled (itemsOf query?) name) :
    query?.bind (lookup · name) = (values (itemsOf query?) name).head? := by
  cases query? with
  | none => rfl
  | some query =>
      show lookup query name = (values (items query) name).head?
      rw [lookup_eq_head?]
      by_cases hname : name = ""
      · -- Empty pieces add nothing but the value that the items have already.
        subst hname
        have hempty : "" ∈ values (items query) "" := h.empty rfl
        have hitems : ∀ w ∈ values (items query) "", w = "" := fun w hw => h.single w hw _ hempty
        have hpieces : ∀ w ∈ values (Text.split '&' query) "", w = "" := by
          intro w hw
          obtain ⟨piece, hpiece, hnv⟩ := mem_values.mp hw
          by_cases hp : piece = ""
          · subst hp
            exact (Prod.mk.inj hnv).2.symm
          · have hitem : piece ∈ items query :=
              List.mem_filter.mpr ⟨hpiece, by simpa using hp⟩
            exact hitems w (mem_values.mpr ⟨piece, hitem, hnv⟩)
        obtain ⟨piece, hpiece, hnv⟩ := mem_values.mp hempty
        have hmem : "" ∈ values (Text.split '&' query) "" :=
          mem_values.mpr ⟨piece, (List.mem_filter.mp hpiece).1, hnv⟩
        rw [head?_of_all hmem hpieces, head?_of_all hempty hitems]
      · rw [items, values_filter hname]

/-- Items that are permuted settle the same names. -/
theorem Settled.perm {items items' : List String} {name : String} (h : Settled items name)
    (hperm : items.Perm items') : Settled items' name := by
  have hmem := fun v => (values_perm hperm name).mem_iff (a := v)
  constructor
  · intro v hv v' hv'
    exact h.single v ((hmem v).mpr hv) v' ((hmem v').mpr hv')
  · exact fun hname => (hmem "").mp (h.empty hname)

/-- A settled name has one value in every order of the items. -/
theorem Settled.head?_eq {items items' : List String} {name : String} (h : Settled items name)
    (hperm : items.Perm items') : (values items name).head? = (values items' name).head? := by
  have hvalues := values_perm hperm name
  cases hv : values items name with
  | nil =>
      rw [hv] at hvalues
      rw [hvalues.symm.eq_nil]
  | cons v vs =>
      have hmem : v ∈ values items name := hv ▸ List.mem_cons_self
      have hall : ∀ w ∈ values items' name, w = v := fun w hw =>
        h.single w (hvalues.mem_iff.mpr hw) v hmem
      rw [head?_of_all (hvalues.mem_iff.mp hmem) hall, List.head?_cons]

/-! ## §2. A query for every order of the items. -/

theorem mem_itemsOf {query? : Option String} {item : String} (h : item ∈ itemsOf query?) :
    item ≠ "" ∧ '&' ∉ item.toList := by
  cases query? with
  | none => simp [itemsOf] at h
  | some query => exact mem_items h

theorem filter_itemsOf (query? : Option String) :
    (itemsOf query?).filter (· ≠ "") = itemsOf query? :=
  List.filter_eq_self.mpr fun item hitem => by simpa using (mem_itemsOf hitem).1

/-- The pieces of a text that was joined from pieces without ampersands. -/
theorem split_intercalate {pieces : List String} (hne : pieces ≠ [])
    (h : ∀ piece ∈ pieces, '&' ∉ piece.toList) :
    Text.split '&' ("&".intercalate pieces) = pieces := by
  have hfree : ∀ p ∈ pieces.map String.toList, '&' ∉ p := by
    intro p hp
    obtain ⟨piece, hpiece, rfl⟩ := List.mem_map.mp hp
    exact h piece hpiece
  have hcut := Text.pieces_join (by simpa using hne) hfree
  rw [Text.split, String.toList_intercalate]
  show (Text.pieces '&' (Text.joinWith '&' _)).map _ = _
  rw [hcut, List.map_map, show String.ofList ∘ String.toList = id from
    funext fun s => String.ofList_toList, List.map_id]

/-- The pieces of a query, joined again, are the query. -/
theorem intercalate_split (query : String) :
    "&".intercalate (Text.split '&' query) = query := by
  have hpieces : (Text.split '&' query).map String.toList = Text.pieces '&' query.toList := by
    rw [Text.split, List.map_map, show String.toList ∘ String.ofList = id from
      funext fun cs => String.toList_ofList, List.map_id]
  apply String.toList_inj.mp
  rw [String.toList_intercalate, hpieces]
  exact Text.join_pieces '&' query.toList

end Query

/-! ## §3. Equal keys. -/

namespace CacheKey

open Query

/-- The items of a key stand in order. -/
theorem sortedItems_pairwise (q : String) : (sortedItems q).Pairwise (· ≤ ·) := by
  have htrans : ∀ a b c : String, decide (a ≤ b) = true → decide (b ≤ c) = true →
      decide (a ≤ c) = true := by
    intro a b c hab hbc
    rw [decide_eq_true_eq] at hab hbc ⊢
    exact String.le_trans hab hbc
  have htotal : ∀ a b : String, (decide (a ≤ b) || decide (b ≤ a)) = true := fun a b => by
    simpa using String.le_total a b
  simpa [sortedItems] using List.pairwise_mergeSort htrans htotal (items q)

theorem sortedItems_of_perm {q q' : String} (h : (items q).Perm (items q')) :
    sortedItems q = sortedItems q' := by
  refine List.Perm.eq_of_pairwise (fun _ _ _ _ => String.le_antisymm) (sortedItems_pairwise q)
    (sortedItems_pairwise q') ?_
  exact (sortedItems_perm q).trans (h.trans (sortedItems_perm q').symm)

/-- **The same items, in any order, make the same key.** -/
theorem new_eq_of_perm (binding : String) (params : Params) {q? q'? : Option String}
    (h : (itemsOf q?).Perm (itemsOf q'?)) : new binding params q? = new binding params q'? := by
  -- No query at all and one without items have the same key.
  have hnone : ∀ q, items q = [] → canonicalQuery q = none := fun q hq => by
    have hs : sortedItems q = [] := (hq ▸ sortedItems_perm q).eq_nil
    rw [canonicalQuery_eq, if_pos hs]
  have hquery : q?.bind canonicalQuery = q'?.bind canonicalQuery := by
    cases q? with
    | none =>
        cases q'? with
        | none => rfl
        | some q' => exact (hnone q' h.symm.eq_nil).symm
    | some q =>
        cases q'? with
        | none => exact hnone q h.eq_nil
        | some q' =>
            show canonicalQuery q = canonicalQuery q'
            rw [canonicalQuery_eq, canonicalQuery_eq, sortedItems_of_perm h]
  rw [new, new, hquery]

/-- The pieces of a canonical query are the items that it was made from. -/
theorem split_of_canonicalQuery {q c : String} (h : canonicalQuery q = some c) :
    Text.split '&' c = sortedItems q := by
  rw [canonicalQuery_eq] at h
  by_cases hnil : sortedItems q = []
  · rw [if_pos hnil] at h
    exact absurd h (by simp)
  · rw [if_neg hnil] at h
    obtain rfl := Option.some.inj h
    exact split_intercalate hnil fun item hitem =>
      (mem_items ((sortedItems_perm q).mem_iff.mp hitem)).2

theorem items_of_canonicalQuery {q c : String} (h : canonicalQuery q = some c) :
    items c = sortedItems q := by
  rw [items, split_of_canonicalQuery h]
  refine List.filter_eq_self.mpr fun item hitem => ?_
  simpa using (mem_items ((sortedItems_perm q).mem_iff.mp hitem)).1

/-- A canonical query is its own canonical form. -/
theorem canonicalQuery_canonical {q c : String} (h : canonicalQuery q = some c) :
    canonicalQuery c = some c := by
  have hperm : (items c).Perm (items q) := items_of_canonicalQuery h ▸ sortedItems_perm q
  rw [canonicalQuery_eq, sortedItems_of_perm hperm, ← canonicalQuery_eq, h]

/-- A query is canonical if none of its pieces is empty and they stand in order. -/
theorem canonicalQuery_eq_self_iff {c : String} :
    canonicalQuery c = some c
      ↔ "" ∉ Text.split '&' c ∧ (Text.split '&' c).Pairwise (· ≤ ·) := by
  constructor
  · intro h
    rw [split_of_canonicalQuery h]
    refine ⟨fun hempty => ?_, sortedItems_pairwise c⟩
    exact (mem_items ((sortedItems_perm c).mem_iff.mp hempty)).1 rfl
  · rintro ⟨hempty, hordered⟩
    have hitems : items c = Text.split '&' c := by
      refine List.filter_eq_self.mpr fun piece hpiece => ?_
      have hne : piece ≠ "" := fun heq => hempty (heq ▸ hpiece)
      simpa using hne
    -- Bringing in order what is in order changes nothing.
    have hsorted : sortedItems c = Text.split '&' c := by
      rw [← hitems] at hordered ⊢
      exact List.Perm.eq_of_pairwise (fun _ _ _ _ => String.le_antisymm) (sortedItems_pairwise c)
        hordered (sortedItems_perm c)
    have hne : Text.split '&' c ≠ [] := by
      simpa [Text.split] using Text.pieces_ne_nil '&' c.toList
    rw [canonicalQuery_eq, hsorted, if_neg hne, intercalate_split]

/-- **When two keys are equal**: they are of one binding and the same captures,
and the queries have the same items, in some order.  A canonical query stays as
it is when it is made canonical; canonical are the queries without empty pieces
whose pieces stand in order. -/
theorem new_eq_new_iff (b b' : String) (p p' : Params) (q? q'? : Option String) :
    (new b p q? = new b' p' q'? ↔ b = b' ∧ p = p' ∧ (itemsOf q?).Perm (itemsOf q'?))
      ∧ (∀ q c, canonicalQuery q = some c → canonicalQuery c = some c)
      ∧ ∀ c, canonicalQuery c = some c
        ↔ "" ∉ Text.split '&' c ∧ (Text.split '&' c).Pairwise (· ≤ ·) := by
  refine ⟨⟨new_inj, ?_⟩, fun q c => canonicalQuery_canonical, fun c => canonicalQuery_eq_self_iff⟩
  rintro ⟨rfl, rfl, hperm⟩
  exact new_eq_of_perm b p hperm

/-- Whatever pieces a request's items stand among, in any order and with empty
ones between them, some request has these pieces and the same key. -/
theorem exists_request_of_pieces (binding : String) (params : Params) (r : Request)
    {pieces : List String} (hne : pieces ≠ []) (hfree : ∀ piece ∈ pieces, '&' ∉ piece.toList)
    (hperm : (pieces.filter (· ≠ "")).Perm (itemsOf r.query)) :
    ∃ r' : Request, new binding params r'.query = new binding params r.query
      ∧ ∀ name, r'.queryParam name = (values pieces name).head? := by
  have hsplit := split_intercalate hne hfree
  refine ⟨{ r with query := some ("&".intercalate pieces) }, new_eq_of_perm binding params ?_,
    fun name => ?_⟩
  · show ((Text.split '&' ("&".intercalate pieces)).filter (· ≠ "")).Perm _
    rw [hsplit]
    exact hperm
  · show lookup ("&".intercalate pieces) name = _
    rw [lookup_eq_head?, hsplit]

/-- The items alone, in their own order. -/
theorem exists_request_of_items (binding : String) (params : Params) (r : Request) :
    ∃ r' : Request, new binding params r'.query = new binding params r.query
      ∧ ∀ name, r'.queryParam name = (values (itemsOf r.query) name).head? := by
  by_cases hnil : itemsOf r.query = []
  · -- No items make no query.
    refine ⟨{ r with query := none }, new_eq_of_perm binding params ?_, fun name => ?_⟩
    · rw [hnil]
      exact .refl _
    · rw [hnil]
      rfl
  · refine exists_request_of_pieces binding params r hnil (fun item hitem => ?_) ?_
    · exact (mem_itemsOf hitem).2
    · rw [filter_itemsOf]

/-- An item that gives a name a value, in front of all others. -/
theorem exists_request_of_value (binding : String) (params : Params) {r : Request}
    {name v : String} (hv : v ∈ values (itemsOf r.query) name) :
    ∃ r' : Request, new binding params r'.query = new binding params r.query
      ∧ r'.queryParam name = some v := by
  obtain ⟨item, hitem, hnv⟩ := mem_values.mp hv
  have hperm : (itemsOf r.query).Perm (item :: (itemsOf r.query).erase item) :=
    List.perm_cons_erase hitem
  have hfiltered := hperm.symm.filter (· ≠ "")
  rw [filter_itemsOf] at hfiltered
  obtain ⟨r', hkey, hparam⟩ := exists_request_of_pieces binding params r (by simp)
    (fun piece hpiece => (mem_itemsOf (hperm.mem_iff.mpr hpiece)).2) hfiltered
  refine ⟨r', hkey, ?_⟩
  rw [hparam, values_cons, hnv, if_pos rfl]
  rfl

/-- An empty piece, which has the empty name, in front of the items. -/
theorem exists_request_of_empty (binding : String) (params : Params) (r : Request) :
    ∃ r' : Request, new binding params r'.query = new binding params r.query
      ∧ r'.queryParam "" = some "" := by
  obtain ⟨r', hkey, hparam⟩ := @exists_request_of_pieces binding params r
    ("" :: itemsOf r.query) (by simp)
    (by
      intro piece hpiece
      rcases List.mem_cons.mp hpiece with rfl | hpiece
      · decide
      · exact (mem_itemsOf hpiece).2)
    (by rw [List.filter_cons_of_neg (by simp), filter_itemsOf])
  refine ⟨r', hkey, ?_⟩
  rw [hparam, values_cons]
  rfl

/-- **What a key settles.**  All requests with the key of a request give a name
the value that it gives it if and only if the name is settled by its items: no
two of them give it different values and, if it is the empty name, one gives it
the empty value. -/
theorem same_key_same_param_iff (binding : String) (params : Params) (r : Request)
    (name : String) :
    (∀ r' : Request, new binding params r'.query = new binding params r.query →
        r'.queryParam name = r.queryParam name)
      ↔ Settled (itemsOf r.query) name := by
  constructor
  · intro hsame
    constructor
    · -- Each value is found by some request, so all are what this one finds.
      intro v hv v' hv'
      obtain ⟨s, hkey, hparam⟩ := exists_request_of_value binding params hv
      obtain ⟨s', hkey', hparam'⟩ := exists_request_of_value binding params hv'
      have hfirst : some v = r.queryParam name := hparam.symm.trans (hsame s hkey)
      exact Option.some.inj (hfirst.trans ((hsame s' hkey').symm.trans hparam'))
    · -- With an empty piece the empty name has the empty value, and without
      -- one it has what the items say.
      rintro rfl
      obtain ⟨s, hkey, hempty⟩ := exists_request_of_empty binding params r
      obtain ⟨s', hkey', hitems⟩ := exists_request_of_items binding params r
      have hhead : (values (itemsOf r.query) "").head? = some "" := by
        rw [← hitems, hsame s' hkey', ← hsame s hkey, hempty]
      exact List.mem_of_head? hhead
  · intro hsettled r' hkey
    have hperm := (new_inj hkey).2.2.symm
    show r'.query.bind _ = r.query.bind _
    rw [hsettled.lookup_eq, (hsettled.perm hperm).lookup_eq, hsettled.head?_eq hperm]

/-- **A name with two values tells requests with one key apart.** -/
theorem same_key_other_param :
    ∃ r r' : Request, r.query = some "a=1&a=2" ∧ r'.query = some "a=2&a=1"
      ∧ new "search" [] r.query = new "search" [] r'.query
      ∧ r.queryParam "a" = some "1" ∧ r'.queryParam "a" = some "2" := by
  refine ⟨{ (default : Request) with query := some "a=1&a=2" },
    { (default : Request) with query := some "a=2&a=1" }, rfl, rfl, ?_, by decide, by decide⟩
  refine new_eq_of_perm "search" [] ?_
  show (items "a=1&a=2").Perm (items "a=2&a=1")
  rw [show items "a=1&a=2" = ["a=1", "a=2"] by decide,
    show items "a=2&a=1" = ["a=2", "a=1"] by decide]
  exact .swap _ _ []

end CacheKey

end Switchyard
