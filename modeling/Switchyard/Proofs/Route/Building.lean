/-
  Switchyard.Proofs.Route.Building
  ────────────────────────────────
  What a binding becomes through the steps of building it.  Each step sets one
  field, but for the one that sets the methods: it also renames a binding that
  was given no name.  So the name of such a binding has to follow its methods
  through all steps.

      Step           — to give a name, to set the method or the caching
      lastOf         — what the last step of a kind sets
      FollowsMethods — a name that was not given is the default one

  Main statement:

      last_steps_decide
-/
import Switchyard.Route.Binding

namespace Switchyard.Binding

variable {η α β : Type}

/-! ## §1. Steps. -/

/-- One step of building a binding. -/
inductive Step where
  | name (name : String)
  | method (method : Method)
  | cacheable (cacheable : Bool)
  deriving DecidableEq

/-- What a step is about. -/
inductive Step.Kind where
  | name
  | method
  | cacheable
  deriving DecidableEq

namespace Step

def kind : Step → Kind
  | .name _ => .name
  | .method _ => .method
  | .cacheable _ => .cacheable

/-- The name that a step gives. -/
def name? : Step → Option String
  | .name n => some n
  | _ => none

/-- The method that a step sets. -/
def method? : Step → Option Method
  | .method m => some m
  | _ => none

/-- What a step says of caching. -/
def cacheable? : Step → Option Bool
  | .cacheable c => some c
  | _ => none

end Step

def apply (b : Binding η) : Step → Binding η
  | .name n => b.withName n
  | .method m => b.withMethod m
  | .cacheable c => b.withCacheable c

/-- The binding after some steps, one after the other. -/
def build (b : Binding η) (steps : List Step) : Binding η := steps.foldl apply b

/-- What is set by the last step that sets anything of a kind. -/
def lastOf (set? : Step → Option α) (steps : List Step) : Option α :=
  (steps.filterMap set?).getLast?

theorem lastOf_map (set? : Step → Option α) (f : α → β) (steps : List Step) :
    lastOf (fun s => (set? s).map f) steps = (lastOf set? steps).map f := by
  rw [lastOf, lastOf, ← List.getLast?_map, List.map_filterMap]

/-! ## §2. Fields that one kind of step sets. -/

/-- **A field is what the last step sets it to** that sets it at all, if a step
that does not set it leaves it alone. -/
theorem field_build (field : Binding η → α) (set? : Step → Option α)
    (hstep : ∀ b s, field (apply b s) = (set? s).getD (field b)) (b : Binding η)
    (steps : List Step) : field (b.build steps) = (lastOf set? steps).getD (field b) := by
  induction steps generalizing b with
  | nil => rfl
  | cons s steps ih =>
      -- What the first step sets is there for the others to start with.
      show field ((b.apply s).build steps) = _
      rw [ih, hstep]
      unfold lastOf
      cases hs : set? s with
      | none => rw [List.filterMap_cons_none hs, Option.getD_none]
      | some a =>
          rw [List.filterMap_cons_some hs, List.getLast?_cons, Option.getD_some]
          rfl

theorem methods_build (b : Binding η) (steps : List Step) :
    (b.build steps).methods = ((lastOf Step.method? steps).map .only).getD b.methods := by
  rw [field_build methods (fun s => s.method?.map .only) (fun b s => by cases s <;> rfl),
    lastOf_map]

theorem cacheable_build (b : Binding η) (steps : List Step) :
    (b.build steps).cacheable = (lastOf Step.cacheable? steps).getD b.cacheable :=
  field_build cacheable Step.cacheable? (fun b s => by cases s <;> rfl) b steps

/-- No step touches the pattern and the handler. -/
theorem route_build (b : Binding η) (steps : List Step) :
    (b.build steps).pattern = b.pattern ∧ (b.build steps).handler = b.handler := by
  induction steps generalizing b with
  | nil => exact ⟨rfl, rfl⟩
  | cons s steps ih =>
      have hstep : (b.apply s).pattern = b.pattern ∧ (b.apply s).handler = b.handler := by
        cases s <;> exact ⟨rfl, rfl⟩
      rw [← hstep.1, ← hstep.2]
      exact ih (b.apply s)

/-! ## §3. Names. -/

/-- The name that a binding was given, if it was given one. -/
def givenName? (b : Binding η) : Option String := if b.isNamed then some b.name else none

theorem givenName?_apply (b : Binding η) (s : Step) :
    (b.apply s).givenName? = (s.name?.map some).getD b.givenName? := by
  cases s with
  | name n => rfl
  | method m =>
      show (if b.isNamed then some (if b.isNamed then b.name else _) else none) = b.givenName?
      unfold givenName?
      cases b.isNamed <;> rfl
  | cacheable c => rfl

theorem givenName?_build (b : Binding η) (steps : List Step) :
    (b.build steps).givenName? = ((lastOf Step.name? steps).map some).getD b.givenName? := by
  rw [field_build givenName? (fun s => s.name?.map some) givenName?_apply, lastOf_map]

/-- A name that was not given is the default one for the methods. -/
def FollowsMethods (b : Binding η) : Prop :=
  b.isNamed = false → b.name = defaultName b.methods b.pattern

theorem followsMethods_new (p : Pattern) (handler : η) : (new p handler).FollowsMethods :=
  fun _ => rfl

namespace FollowsMethods

variable {b b' : Binding η}

/-- A step that sets the method renames the binding where the name has to follow. -/
theorem apply (h : b.FollowsMethods) (s : Step) : (b.apply s).FollowsMethods := by
  intro hunnamed
  cases s with
  | name n => exact absurd hunnamed (by simp [Binding.apply, withName])
  | method m =>
      replace hunnamed : b.isNamed = false := hunnamed
      exact if_neg (by simp [hunnamed])
  | cacheable c => exact h hunnamed

theorem build (h : b.FollowsMethods) (steps : List Step) : (b.build steps).FollowsMethods := by
  induction steps generalizing b with
  | nil => exact h
  | cons s steps ih => exact ih (h.apply s)

theorem name_eq (h : b.FollowsMethods) :
    b.name = b.givenName?.getD (defaultName b.methods b.pattern) := by
  unfold givenName?
  cases hnamed : b.isNamed with
  | false => exact h hnamed
  | true => rfl

/-- Such a binding is nothing but its fields and the name that it was given. -/
theorem eq_of_given (h : b.FollowsMethods) (h' : b'.FollowsMethods) (hpattern : b.pattern = b'.pattern)
    (hhandler : b.handler = b'.handler) (hmethods : b.methods = b'.methods)
    (hcacheable : b.cacheable = b'.cacheable) (hgiven : b.givenName? = b'.givenName?) :
    b = b' := by
  have hname : b.name = b'.name := by rw [h.name_eq, h'.name_eq, hgiven, hmethods, hpattern]
  -- The flag is not compared: it says no more than that there is a given name.
  have hnamed (b : Binding η) : b.isNamed = b.givenName?.isSome := by
    unfold givenName?
    cases b.isNamed <;> rfl
  have hisNamed : b.isNamed = b'.isNamed := by rw [hnamed, hnamed, hgiven]
  exact Binding.ext hpattern hhandler hmethods hcacheable hname hisNamed

end FollowsMethods

/-! ## §4. The last step of each kind. -/

/-- Steps of different kinds can change places. -/
theorem apply_comm {s t : Step} (b : Binding η) (h : s.kind ≠ t.kind) :
    (b.apply s).apply t = (b.apply t).apply s := by
  cases s <;> cases t
  case name.name | method.method | cacheable.cacheable => exact absurd rfl h
  all_goals rfl

/-- **The last step of each kind decides.**  Whatever steps build a binding, it
accepts the method that was set last, or else any method; its answers may be
cached if that was said last; and it has the name that was given last, or else the
default one for the methods that it ends up with.  So all that counts is the last
step of each kind, and steps of different kinds can change places. -/
theorem last_steps_decide (p : Pattern) (handler : η) (steps : List Step) :
    ((new p handler).build steps).methods = (lastOf Step.method? steps).elim .any .only
      ∧ ((new p handler).build steps).cacheable = (lastOf Step.cacheable? steps).getD false
      ∧ ((new p handler).build steps).name
        = (lastOf Step.name? steps).getD
            (defaultName ((new p handler).build steps).methods p)
      ∧ (∀ steps', lastOf Step.name? steps' = lastOf Step.name? steps →
          lastOf Step.method? steps' = lastOf Step.method? steps →
          lastOf Step.cacheable? steps' = lastOf Step.cacheable? steps →
          (new p handler).build steps' = (new p handler).build steps)
      ∧ ∀ before s t after, s.kind ≠ t.kind →
          (new p handler).build (before ++ s :: t :: after)
            = (new p handler).build (before ++ t :: s :: after) := by
  have hfollows (steps : List Step) := (followsMethods_new p handler).build steps
  have hroute (steps : List Step) := route_build (new p handler) steps
  refine ⟨?_, cacheable_build _ _, ?_, ?_, ?_⟩
  -- The methods, the name, the steps that count, and their order.
  · rw [methods_build]
    cases lastOf Step.method? steps <;> rfl
  · rw [(hfollows steps).name_eq, givenName?_build, (hroute steps).1]
    cases lastOf Step.name? steps <;> rfl
  · intro steps' hname hmethod hcacheable
    refine (hfollows steps').eq_of_given (hfollows steps) ?_ ?_ ?_ ?_ ?_
    · rw [(hroute steps').1, (hroute steps).1]
    · rw [(hroute steps').2, (hroute steps).2]
    · rw [methods_build, methods_build, hmethod]
    · rw [cacheable_build, cacheable_build, hcacheable]
    · rw [givenName?_build, givenName?_build, hname]
  · intro before s t after hkind
    simp only [build, List.foldl_append, List.foldl_cons]
    rw [apply_comm _ hkind]

/-- A method that is set after the name does not rename the binding, be the name
given first or last. -/
theorem put_named_create :
    let users : Pattern := ⟨"users/<id>", [.literal "users", .capture "id"], .closed⟩
    (Step.name "create-user").kind ≠ (Step.method ⟨"PUT"⟩).kind
      ∧ (new users ()).build [.method .post, .name "create-user", .method ⟨"PUT"⟩]
        = (new users ()).build [.method .post, .method ⟨"PUT"⟩, .name "create-user"]
      ∧ ((new users ()).build [.method .post, .name "create-user", .method ⟨"PUT"⟩]).name
        = "create-user" := by
  intro users
  have hkind : (Step.name "create-user").kind ≠ (Step.method ⟨"PUT"⟩).kind := by
    decide
  obtain ⟨-, -, hname, -, hcomm⟩ := last_steps_decide users ()
    [.method .post, .name "create-user", .method ⟨"PUT"⟩]
  exact ⟨hkind, hcomm [.method .post] _ _ [] hkind, hname⟩

end Switchyard.Binding
