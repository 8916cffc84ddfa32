/-
  Switchyard.Proofs.Site.Files
  ────────────────────────────
  What a router serves that has the routes of static files only.  A request
  asks for the index, for a file by its stem, or for one by stem and extension.
  It is refused before anything is read, or answered from one file that stands
  directly in the root directory.

      Asked     — what a request can ask for
      Servable  — the names that files are served under

  Main statements:

      asked_of_resolve?     — nothing else can be asked for
      answer_refused, answer_read
      serves_children_only  — what is served stands directly in the root
-/
import Switchyard.Proofs.Files.Children
import Switchyard.Proofs.Http.HeaderText
import Switchyard.Proofs.Route.Completeness
import Switchyard.Proofs.Route.Registration
import Switchyard.Proofs.Site.Builtin

namespace Switchyard.StaticFiles

variable {α ω : Type} {s : StaticFiles} {method : Method} {path : String}
  {b : Binding (Endpoint α)} {params : Params}

/-! ## §1. The routes. -/

/-- A router with the routes of static files only. -/
def routes (s : StaticFiles) : RouteTable (Endpoint α) :=
  (RouteDraft.registerAll .empty (Config.fileRoutes s)).2

/-- The route of the index. -/
def indexBinding (s : StaticFiles) : Binding (Endpoint α) where
  pattern := ⟨"/", [], .closed⟩
  handler := .files s
  methods := .only .get
  cacheable := true
  name := "static-index"
  isNamed := true

/-- The route of all other files. -/
def fileBinding (s : StaticFiles) : Binding (Endpoint α) where
  pattern := ⟨"<file>[extension]", [], .extension (.capture "file") "extension" (.optional none)⟩
  handler := .files s
  methods := .only .get
  cacheable := true
  name := "static-files"
  isNamed := true

theorem registerAll_fileRoutes (s : StaticFiles) :
    RouteDraft.registerAll (α := α) .empty (Config.fileRoutes s)
      = (.ok (), ⟨[indexBinding s, fileBinding s]⟩) := by
  have hindex : Pattern.compile "/" = .ok ⟨"/", [], .closed⟩ := by
    decide +kernel
  have hfile : Pattern.compile "<file>[extension]" = .ok ⟨"<file>[extension]", [],
      .extension (.capture "file") "extension" (.optional none)⟩ := by
    decide +kernel
  have hbindings : (Config.fileRoutes (α := α) s).mapM RouteDraft.toBinding
      = .ok [indexBinding s, fileBinding s] := by
    simp only [Config.fileRoutes, List.mapM_cons, List.mapM_nil, RouteDraft.toBinding, hindex,
      hfile]
    rfl
  have hnodup : ["static-index", "static-files"].Nodup := by decide
  exact RouteDraft.registerAll_of_new hbindings (fun _ _ => List.not_mem_nil) hnodup

theorem routes_eq (s : StaticFiles) :
    s.routes = (⟨[indexBinding s, fileBinding s]⟩ : RouteTable (Endpoint α)) := by
  rw [routes, registerAll_fileRoutes]

/-! ## §2. What is asked for. -/

/-- What a request can ask for. -/
inductive Asked : Params → Prop where
  | index : Asked []
  | stem {file : String} (isComponent : IsComponent file) : Asked [("file", file)]
  | whole {file extension : String} (isComponent : IsComponent file)
      (onePart : extension ≠ "" ∧ '/' ∉ extension.toList ∧ '.' ∉ extension.toList) :
      Asked [("file", file), ("extension", extension)]

/-- One component asks for a file. -/
theorem asked_of_component {component : String} (hslash : '/' ∉ component.toList)
    (h : Pattern.acceptTail (.extension (.capture "file") "extension" (.optional none)) [component]
      = some params) : Asked params := by
  rw [Pattern.acceptTail] at h
  rcases Pattern.splitExtension_cases component with
    ⟨file, extension, hsplit, rfl, hne, hdot⟩ | hsplit
  · rw [hsplit] at h
    obtain ⟨here, hhere, rfl⟩ := Option.map_eq_some_iff.mp h
    obtain ⟨hfile, hhere⟩ := Option.ite_none_left_eq_some.mp hhere
    obtain rfl := Option.some.inj hhere
    simp only [String.toList_append, List.mem_append, not_or] at hslash
    exact .whole ⟨hfile, hslash.1.1⟩ ⟨hne, hslash.2, hdot⟩
  · rw [hsplit] at h
    obtain ⟨here, hhere, rfl⟩ := Option.map_eq_some_iff.mp h
    obtain ⟨hfile, hhere⟩ := Option.ite_none_left_eq_some.mp hhere
    obtain rfl := Option.some.inj hhere
    exact .stem ⟨hfile, hslash⟩

/-- The index takes the path without components only. -/
theorem asked_of_index (h : (indexBinding (α := α) s).pattern.match? path = some params) :
    Asked params := by
  unfold Pattern.match? at h
  cases hcomponents : Pattern.components path with
  | nil =>
      rw [hcomponents] at h
      obtain rfl : [] = params := Option.some.inj h
      exact .index
  | cons component components =>
      rw [hcomponents] at h
      exact absurd h (by simp [indexBinding, Pattern.accept, Pattern.acceptTail])

/-- Other files are asked for by one component. -/
theorem asked_of_file (h : (fileBinding (α := α) s).pattern.match? path = some params) :
    Asked params := by
  have hslash : ∀ component ∈ Pattern.components path, '/' ∉ component.toList :=
    fun _ => Pattern.noSlash_of_mem_components
  unfold Pattern.match? at h
  cases hcomponents : Pattern.components path with
  | nil =>
      rw [hcomponents] at h
      exact absurd h (by simp [fileBinding, Pattern.accept, Pattern.acceptTail])
  | cons component components =>
      rw [hcomponents] at h hslash
      cases components with
      | nil => exact asked_of_component (hslash component List.mem_cons_self) h
      | cons _ _ => exact absurd h (by simp [fileBinding, Pattern.accept, Pattern.acceptTail])

/-- **Nothing else can be asked for**, and the files answer. -/
theorem asked_of_resolve? (h : s.routes.resolve? method path = some (b, params)) :
    b.handler = .files s ∧ Asked params := by
  rw [routes_eq] at h
  obtain ⟨b', hb', hmatch⟩ := List.exists_of_findSome?_eq_some h
  obtain ⟨params', haccepts, hpair⟩ := Option.map_eq_some_iff.mp hmatch
  obtain ⟨rfl, rfl⟩ := Prod.mk.inj hpair
  obtain ⟨-, haccepts⟩ := Option.ite_none_right_eq_some.mp haccepts
  rcases List.mem_cons.mp hb' with rfl | hb'
  · exact ⟨rfl, asked_of_index haccepts⟩
  · obtain rfl := List.mem_singleton.mp hb'
    exact ⟨rfl, asked_of_file haccepts⟩

/-- A name with an extension is asked for by its path. -/
theorem resolve?_of_components (hmethod : method = .get ∨ method = .head) {file extension : String}
    (hfile : file ≠ "") (hne : extension ≠ "") (hdot : '.' ∉ extension.toList)
    (hpath : Pattern.components path = [file ++ "." ++ extension]) :
    (s.routes : RouteTable (Endpoint α)).resolve? method path
      = some (fileBinding s, [("file", file), ("extension", extension)]) := by
  have hallows : (MethodFilter.only Method.get).allows method = true := by
    rcases hmethod with rfl | rfl <;> rfl
  have hindex : RouteTable.accepts? (indexBinding (α := α) s) method path = none := by
    unfold RouteTable.accepts? Pattern.match?
    rw [hpath]
    simp [indexBinding, Pattern.accept, Pattern.acceptTail]
  have hfiles : RouteTable.accepts? (fileBinding (α := α) s) method path
      = some [("file", file), ("extension", extension)] := by
    unfold RouteTable.accepts? Pattern.match?
    rw [hpath]
    simp [fileBinding, hallows, Pattern.accept, Pattern.acceptTail,
      Pattern.splitExtension_append hfile hne hdot, Pattern.acceptPiece, hfile, Pattern.bindValue]
  simp [routes_eq, RouteTable.resolve?, hindex, hfiles]

/-! ## §3. What is answered. -/

/-- The name of the file that is asked for. -/
def fileName (s : StaticFiles) (params : Params) : String :=
  s.name params ++ "." ++ s.extension params

/-- What is made of a file, once it was read or could not be. -/
def outcomeOf (path extension : String) : Except FileError Bytes → Outcome
  | .ok content =>
      .reply ((Response.new .ok content).withContentType (Response.contentTypeOf extension))
  | .error .notFound => .reply .notFound
  | .error e => .failure ["reading " ++ path, e.message]

theorem answer_refused (h : s.target? params = none) (fs : FileSystem) :
    s.answer fs params = .reply .notFound := by
  rw [answer, h]

/-- What is not refused is read, and nothing but the file of that name. -/
theorem answer_read (h : s.target? params ≠ none) (fs : FileSystem) :
    s.answer fs params = outcomeOf (Path.join s.root (s.fileName params)) (s.extension params)
      (fs.read (Path.join s.root (s.fileName params))) := by
  have htarget : s.target? params = some (Path.join s.root (s.fileName params)) := by
    unfold target? at h ⊢
    split at h
    · next hplain => rw [if_pos hplain, fileName]
    · exact absurd rfl h
  simp only [answer, htarget]
  generalize fs.read (Path.join s.root (s.fileName params)) = read
  cases read with
  | ok content => rfl
  | error e => cases e <;> rfl

/-- A success has the content of the file. -/
theorem read_of_outcomeOf {extension : String} {read : Except FileError Bytes} {r : Response}
    (h : outcomeOf path extension read = .reply r) (hok : r.status = .ok) : read = .ok r.body := by
  cases read with
  | ok content =>
      obtain rfl := Outcome.reply.inj h
      rfl
  | error e =>
      cases e with
      | notFound =>
          obtain rfl := Outcome.reply.inj h
          exact absurd hok (by decide)
      | _ => exact absurd h (by simp [outcomeOf])

/-- What comes of a request for a file that may be read. -/
def opened (s : StaticFiles) (name extension : String) (site : Site (Context α ω)) :
    Handled (Context α ω) :=
  ⟨outcomeOf (Path.join s.root name) extension (site.world.files.read (Path.join s.root name)),
    site, []⟩

/-- **A request is refused, whatever files there are, or one file is read.** -/
theorem handle_files (app : Handling α (Context α ω)) (s : StaticFiles) (request : Request) :
    (s.target? request.params = none
        ∧ ∀ site, Endpoint.handle app (.files s) request site = site.reply .notFound)
      ∨ s.target? request.params ≠ none
        ∧ ∀ site, Endpoint.handle app (.files s) request site
          = s.opened (s.fileName request.params) (s.extension request.params) site := by
  by_cases htarget : s.target? request.params = none
  · refine .inl ⟨htarget, ?_⟩
    intro site
    show Handled.mk (s.answer site.world.files request.params) site [] = _
    rw [answer_refused htarget]
    rfl
  · refine .inr ⟨htarget, ?_⟩
    intro site
    show Handled.mk (s.answer site.world.files request.params) site [] = _
    rw [answer_read htarget]
    rfl

/-! ## §4. Names of files. -/

theorem hasTwoDots_iff (cs : List Char) : hasTwoDots cs = true ↔ ['.', '.'] <:+: cs := by
  fun_induction hasTwoDots cs with
  | case1 cs => simpa using ⟨[], cs, rfl⟩
  | case2 c cs hnot ih =>
      have hfront : ¬['.', '.'] <+: c :: cs := by
        rintro ⟨rest, hrest⟩
        obtain ⟨rfl, rfl⟩ := List.cons.inj hrest
        exact hnot rest rfl rfl
      rw [List.infix_cons_iff, ih]
      simp [hfront]
  | case3 => simp

theorem isPlainName_iff (cs : List Char) :
    isPlainName cs = true ↔ cs.head? ≠ some '.' ∧ ¬['.', '.'] <:+: cs ∧ '\\' ∉ cs := by
  rw [← hasTwoDots_iff]
  simp [isPlainName, and_assoc]

theorem isExcluded_ofConfig_iff (c : StaticFilesConfig) (extension : String) :
    (ofConfig c).isExcluded extension = true
      ↔ ∃ x ∈ c.excludeExtensions, Text.lowercase (withoutDots x) = Text.lowercase extension := by
  simp [isExcluded, ofConfig, Text.sameUpToCase, Text.lowercase_lowercase]

/-- What may be read. -/
theorem target?_ne_none_iff (params : Params) :
    s.target? params ≠ none ↔ isPlainName (s.name params).toList = true
      ∧ s.isExcluded (s.extension params) = false := by
  simp [target?]

/-- A stem and an extension that do not begin with a dot name a file. -/
theorem isName_of_stem {file extension : String} (hne : file ≠ "")
    (hhead : file.toList.head? ≠ some '.') :
    (file ++ "." ++ extension).toList.head? ≠ some '.'
      ∧ FileSystem.IsName (file ++ "." ++ extension) := by
  have hhead' : (file ++ "." ++ extension).toList.head? ≠ some '.' := by
    rw [String.append_assoc, String.toList_append, List.head?_append_of_ne_nil]
    · exact hhead
    · exact fun h => hne (String.toList_eq_nil_iff.mp h)
  refine ⟨hhead', ?_, ?_, ?_⟩
  · intro h
    simpa using congrArg String.toList h
  · intro h
    rw [h] at hhead'
    exact hhead' rfl
  · intro h
    rw [h] at hhead'
    exact hhead' rfl

/-- No slash comes into a name, if none is in the index and in the extension
that stands in. -/
theorem Asked.noSlash (h : Asked params) (hindex : IsComponent s.index)
    (hdefault : '/' ∉ s.defaultExtension.toList) :
    IsComponent (s.name params) ∧ '/' ∉ (s.extension params).toList := by
  cases h with
  | index => exact ⟨hindex, hdefault⟩
  | stem isComponent => exact ⟨isComponent, hdefault⟩
  | whole isComponent onePart => exact ⟨isComponent, onePart.2.1⟩

/-! ## §5. What is served. -/

/-- The names of files that a configuration serves. -/
structure Servable (c : StaticFilesConfig) (stem extension : String) : Prop where
  stem_isComponent : IsComponent stem
  visible : stem.toList.head? ≠ some '.'
  noTwoDots : ¬['.', '.'] <:+: stem.toList
  noBackslash : '\\' ∉ stem.toList
  extension_isComponent : IsComponent extension
  onePart : '.' ∉ extension.toList
  included : ∀ x ∈ c.excludeExtensions,
    Text.lowercase (withoutDots x) ≠ Text.lowercase extension

/-- What is not refused is read under a name that leads into the root. -/
theorem Asked.isName (h : Asked params) (hindex : IsComponent s.index)
    (hdefault : '/' ∉ s.defaultExtension.toList) (htarget : s.target? params ≠ none) :
    '/' ∉ (s.fileName params).toList
      ∧ (s.fileName params).toList.head? ≠ some '.'
      ∧ FileSystem.IsName (s.fileName params) := by
  obtain ⟨hstem, hextension⟩ := h.noSlash hindex hdefault
  obtain ⟨hvisible, -, -⟩ := (isPlainName_iff _).mp ((target?_ne_none_iff params).mp htarget).1
  have hslash : '/' ∉ (s.fileName params).toList := by
    simp [fileName, hstem.2, hextension]
  exact ⟨hslash, isName_of_stem hstem.1 hvisible⟩

/-- A path of one component. -/
theorem components_of_name {name : String} (h : IsComponent name) :
    Pattern.components ("/" ++ name) = [name] := by
  have hpath : "/" ++ name = String.ofList (Text.slashed true false
      (Text.joinWith '/' ([name].map String.toList))) := by
    apply String.toList_injective
    simp [Text.slashed, Text.joinWith]
  rw [hpath]
  exact Pattern.components_slashed (fun w hw => List.mem_singleton.mp hw ▸ h) true false

variable {c : StaticFilesConfig} {stem extension : String}

theorem Servable.isComponent (h : Servable c stem extension) :
    IsComponent (stem ++ "." ++ extension) := by
  refine ⟨(isName_of_stem h.stem_isComponent.1 h.visible).2.1, ?_⟩
  simp [h.stem_isComponent.2, h.extension_isComponent.2]

theorem Servable.target?_ne_none (h : Servable c stem extension) :
    (ofConfig c).target? [("file", stem), ("extension", extension)] ≠ none := by
  refine (target?_ne_none_iff _).mpr ⟨?_, ?_⟩
  · exact (isPlainName_iff stem.toList).mpr ⟨h.visible, h.noTwoDots, h.noBackslash⟩
  · refine Bool.eq_false_iff.mpr fun hexcluded => ?_
    obtain ⟨x, hx, hsame⟩ := (isExcluded_ofConfig_iff c extension).mp hexcluded
    exact h.included x hx hsame

/-- **A file in the root directory is served** under its name. -/
theorem Servable.served (h : Servable c stem extension) (app : Handling α (Context α ω))
    {site : Site (Context α ω)} {content : Bytes}
    (hchild : site.world.files.HasChild c.root (stem ++ "." ++ extension) content)
    {request : Request} (hrequest : request.params = [("file", stem), ("extension", extension)]) :
    Endpoint.handle app (.files (ofConfig c)) request site
      = site.reply ((Response.new .ok content).withContentType
          (Response.contentTypeOf extension)) := by
  have hname := @isName_of_stem stem extension h.stem_isComponent.1 h.visible
  have hread := (FileSystem.read_join_iff hname.2 h.isComponent.2).mpr hchild
  rcases handle_files app (ofConfig c) request with ⟨hnone, -⟩ | ⟨-, hopened⟩
  · rw [hrequest] at hnone
    exact absurd hnone h.target?_ne_none
  · rw [hopened, hrequest]
    show Handled.mk (outcomeOf _ extension
      (site.world.files.read (Path.join c.root (stem ++ "." ++ extension)))) site [] = _
    rw [hread]
    rfl

/-- **Static files never leave the root directory, and the files in it can be
reached.**  Let the index be a name without slashes, and the extension that
stands in for a missing one without slashes.

A request that is routed is refused whatever files there are, or what comes of
it is what comes of reading one file: the root joined with one name, which has
no slash and does not begin with a dot.  So what is served with success is the
content of a file directly in the root.

And every such file with a name that may be served is answered with success and
its content, where its name is the path. -/
theorem serves_children_only (c : StaticFilesConfig) (hindex : IsComponent c.index)
    (hdefault : '/' ∉ c.defaultExtension.toList) (app : Handling α (Context α ω)) :
    (∀ (method : Method) (path : String) (b : Binding (Endpoint α)) (params : Params),
      (ofConfig c).routes.resolve? method path = some (b, params) →
      ∀ request : Request, request.params = params →
        ((∀ site, Endpoint.handle app b.handler request site = site.reply .notFound)
          ∨ ∃ file extension : String, '/' ∉ (file ++ "." ++ extension).toList
            ∧ (file ++ "." ++ extension).toList.head? ≠ some '.'
            ∧ ∀ site, Endpoint.handle app b.handler request site
              = (ofConfig c).opened (file ++ "." ++ extension) extension site)
        ∧ ∀ site r, (Endpoint.handle app b.handler request site).outcome = .reply r →
          r.status = .ok →
          ∃ name, '/' ∉ name.toList ∧ site.world.files.HasChild c.root name r.body)
      ∧ ∀ stem extension, Servable c stem extension →
        ∀ (site : Site (Context α ω)) (content : Bytes),
        site.world.files.HasChild c.root (stem ++ "." ++ extension) content →
        ∀ method, method = .get ∨ method = .head →
          ∃ (b : Binding (Endpoint α)) (params : Params),
            (ofConfig c).routes.resolve? method ("/" ++ (stem ++ "." ++ extension))
                = some (b, params)
              ∧ ∀ request : Request, request.params = params →
                ∃ r, Endpoint.handle app b.handler request site = site.reply r
                  ∧ r.status = .ok ∧ r.body = content := by
  constructor
  · -- Nothing but children of the root: what the route asks for is one name.
    rintro method path b _ hresolve request rfl
    obtain ⟨hhandler, hasked⟩ := asked_of_resolve? hresolve
    rw [hhandler]
    rcases handle_files app (ofConfig c) request with ⟨-, hrefused⟩ | ⟨htarget, hopened⟩
    · refine ⟨.inl hrefused, ?_⟩
      intro site r hr hok
      rw [hrefused] at hr
      obtain rfl := Outcome.reply.inj hr
      exact absurd hok (by decide)
    · obtain ⟨hslash, hvisible, hname⟩ := hasked.isName (s := ofConfig c) hindex hdefault htarget
      refine ⟨.inr ⟨_, _, hslash, hvisible, hopened⟩, ?_⟩
      intro site r hr hok
      rw [hopened] at hr
      have hread := read_of_outcomeOf hr hok
      exact ⟨_, hslash, (FileSystem.read_join_iff hname hslash).mp hread⟩
  · -- Every child: its name as the path is routed to the files, split where it was joined.
    intro stem extension hservable site content hchild method hmethod
    refine ⟨fileBinding (ofConfig c), [("file", stem), ("extension", extension)], ?_, ?_⟩
    · exact resolve?_of_components hmethod hservable.stem_isComponent.1
        hservable.extension_isComponent.1 hservable.onePart
        (components_of_name hservable.isComponent)
    · intro request hrequest
      exact ⟨_, hservable.served app hchild hrequest, rfl, rfl⟩

/-- A stylesheet in the root, whose stem has a dot of its own. -/
theorem stylesheet_served :
    let c : StaticFilesConfig := { root := "public" }
    let site : Site (Context Unit Unit) :=
      ⟨.ofConfig {}, .new {} .empty (FileSystem.empty.addFile "public/app.min.css" [98, 123]) ()⟩
    IsComponent c.index ∧ '/' ∉ c.defaultExtension.toList ∧ Servable c "app.min" "css"
      ∧ site.world.files.HasChild c.root "app.min.css" [98, 123]
      ∧ ∃ (b : Binding (Endpoint Unit)) (params : Params),
        (ofConfig c).routes.resolve? .head "/app.min.css" = some (b, params)
          ∧ ∀ request : Request, request.params = params →
            ∃ r, Endpoint.handle (fun _ _ s => s.reply .notFound) b.handler request site
                = site.reply r
              ∧ r.status = .ok ∧ r.body = [98, 123] := by
  intro c site
  have hindex : IsComponent c.index := by
    unfold IsComponent
    decide
  have hservable : Servable c "app.min" "css" :=
    ⟨by unfold IsComponent; decide, by decide, by decide +kernel, by decide,
      by unfold IsComponent; decide, by decide, by decide +kernel⟩
  have hchild : site.world.files.HasChild c.root "app.min.css" [98, 123] :=
    ⟨by unfold FileSystem.IsPath; decide +kernel, by decide +kernel, ["public"],
      ⟨by decide +kernel, by decide +kernel⟩, by decide +kernel⟩
  refine ⟨hindex, by decide, hservable, hchild, ?_⟩
  exact (serves_children_only c hindex (by decide) _).2 "app.min" "css" hservable site _ hchild
    .head (.inr rfl)

end Switchyard.StaticFiles
