/-
# One interface below two base paths

The interface can be reached below two base paths.  Which of them a request uses shows
nowhere but in its path, and of its path a request is asked only what follows the base
path.  So the plan of a request is the same below either of them (`serve_of_sameBelow`),
and with it all that the plan does.

What is replaced is text in the target of a request, while routes match what is decoded of
the path.  The characters of base paths stand for themselves, and no path lies below both
of them, so the one may take the place of the other (`sameBelow_rebase`).
-/
import Roster.Proofs.Api.Envelope
import Roster.Proofs.Http.Target

namespace Roster

namespace Api

open Http (Request Response)
open Http.Path (Below)
open Http.Request (IsBase ofPath)
open Service (Supply inTurn)

/-! ## Requests below the two base paths -/

/-- The requests differ in nothing but the base path, or in how it is written. -/
structure SameBelow (r r' : Request) : Prop where
  method : r'.method = r.method
  query : r'.query = r.query
  headers : r'.headers = r.headers
  body : r'.body = r.body
  path : ∃ rest, Endpoint.insideBase? r.path = some rest ∧ Endpoint.insideBase? r'.path = some rest

theorem isBase_basePaths {base : String} (h : base ∈ Endpoint.basePaths) : IsBase base := by
  have hslash : Endpoint.basePaths.all fun base => base.toList.head? == some '/' := by
    decide +kernel
  have hchars : Endpoint.basePaths.all fun base => base.toList.all fun c =>
      decide (Text.Plain c) && ofPath c := by decide +kernel
  have hall : ∀ c ∈ base.toList, Text.Plain c ∧ ofPath c := fun c hc => by
    simpa using List.all_eq_true.mp (List.all_eq_true.mp hchars base h) c hc
  exact ⟨List.head?_eq_some_iff.mp (eq_of_beq (List.all_eq_true.mp hslash base h)),
    fun c hc => (hall c hc).1, fun c hc => (hall c hc).2⟩

/-- No base path begins with another one. -/
theorem basePaths_apart {base base' : String} (hbase : base ∈ Endpoint.basePaths)
    (hbase' : base' ∈ Endpoint.basePaths) (h : base.toList <+: base'.toList) : base = base' := by
  have hall : Endpoint.basePaths.all fun base => Endpoint.basePaths.all fun base' =>
      !base.toList.isPrefixOf base'.toList || base == base' := by decide +kernel
  have hthese := List.all_eq_true.mp (List.all_eq_true.mp hall base hbase) base' hbase'
  have hbegins := List.isPrefixOf_iff_prefix.mpr h
  rw [hbegins] at hthese
  exact eq_of_beq hthese

/-- So no path lies below two of them, and it does not matter in which order they are tried. -/
theorem insideBase?_of_below {base path : String} {rest : List Char}
    (hbase : base ∈ Endpoint.basePaths)
    (h : Http.Path.below? base.toList (Http.Path.matched path).toList = some rest) :
    Endpoint.insideBase? path = some rest := by
  unfold Endpoint.insideBase?
  cases hfound : Endpoint.basePaths.findSome? fun base =>
      Http.Path.below? base.toList (Http.Path.matched path).toList with
  | none =>
      rw [List.findSome?_eq_none_iff.mp hfound base hbase] at h
      cases h
  | some rest' =>
      obtain ⟨base', hbase', h'⟩ := List.exists_of_findSome?_eq_some hfound
      have hbegins : base.toList <+: (Http.Path.matched path).toList :=
        ⟨rest, (Http.Path.below?_eq_some_iff.mp h).1.symm⟩
      have hbegins' : base'.toList <+: (Http.Path.matched path).toList :=
        ⟨rest', (Http.Path.below?_eq_some_iff.mp h').1.symm⟩
      have hsame : base = base' := by
        rcases List.prefix_or_prefix_of_prefix hbegins hbegins' with hle | hle
        · exact basePaths_apart hbase hbase' hle
        · exact (basePaths_apart hbase' hbase hle).symm
      rw [← hsame, h] at h'
      exact h'.symm

/-- What routes find below a base path is decoded of what follows it in the target. -/
theorem insideBase?_of_localTarget {base : String} (hbase : base ∈ Endpoint.basePaths)
    {r : Request} {tail : List Char} (h : r.localTarget = base.toList ++ tail)
    (htail : Below (tail.takeWhile ofPath)) :
    Endpoint.insideBase? r.path =
      some (Http.Path.matched
        (String.ofList (tail.takeWhile ofPath))).toList := by
  have hisBase := isBase_basePaths hbase
  refine insideBase?_of_below hbase (Http.Path.below?_eq_some_iff.mpr ⟨?_, htail.matched⟩)
  rw [← String.ofList_toList (s := r.path), Http.Request.path_of_localTarget hisBase h]
  exact Text.toList_percentDecoded_append hisBase.plain _

/-- **A base path can be replaced by another**: what follows it in the target stays, and so does
what routes find below it. -/
theorem sameBelow_rebase {base base' : String} (hbase : base ∈ Endpoint.basePaths)
    (hbase' : base' ∈ Endpoint.basePaths) {r : Request} {rest : List Char}
    (h : Http.Path.below? base.toList r.path.toList = some rest) :
    SameBelow r (r.rebase base base') := by
  have hisBase := isBase_basePaths hbase
  have hisBase' := isBase_basePaths hbase'
  obtain ⟨tail, hlocal, htail⟩ := Http.Request.exists_tail hisBase h
  have hlocal' := Http.Request.localTarget_rebase hisBase hisBase' hlocal
  have hbelow : Below (tail.takeWhile ofPath) :=
    htail ▸ (Http.Path.below?_eq_some_iff.mp h).2
  refine ⟨rfl, ?_, rfl, rfl, _, insideBase?_of_localTarget hbase hlocal hbelow,
    insideBase?_of_localTarget hbase' hlocal' hbelow⟩
  rw [Http.Request.query_of_localTarget hisBase hlocal,
    Http.Request.query_of_localTarget hisBase' hlocal']

/-! ## One plan -/

variable {r r' : Request}

theorem handle_of_sameBelow (h : SameBelow r r') (lib : Libraries) (c : Caller) (e : Endpoint) :
    e.handle lib c r' = e.handle lib c r :=
  handle_congr h.query (body_congr (fun name _ => by rw [h.headers]) h.body) c e

/-- **The plan is the same below either base path.** -/
theorem serve_of_sameBelow (h : SameBelow r r') (lib : Libraries) (scheme : Identity.Scheme) :
    serve lib scheme r' = serve lib scheme r := by
  obtain ⟨rest, hpath, hpath'⟩ := h.path
  unfold serve
  rw [hpath, hpath', h.headers]
  dsimp only
  split
  · rfl
  · next c _ =>
      unfold route
      rw [h.method]
      split
      · rfl
      · rw [handle_of_sameBelow h]

/-! ## Runs -/

/-- What arrives is the same, or the same but for the base path. -/
def SameArrival (arrived arrived' : Libraries × Request) : Prop :=
  arrived'.1 = arrived.1 ∧ (arrived'.2 = arrived.2 ∨ SameBelow arrived.2 arrived'.2)

theorem serveArrived_of_sameArrival {scheme : Identity.Scheme}
    {arrived arrived' : Libraries × Request} (h : SameArrival arrived arrived') :
    serveArrived scheme arrived' = serveArrived scheme arrived := by
  obtain ⟨lib, r⟩ := arrived
  obtain ⟨lib', r'⟩ := arrived'
  obtain ⟨rfl, rfl | hr⟩ := h
  · rfl
  · exact serve_of_sameBelow hr lib' scheme

/-- Requests in turn are all answered. -/
theorem inTurn_serve (scheme : Identity.Scheme) (arrivals : List (Libraries × Request))
    (s : Store.Memory) (σ : Supply) : ∃ (responses : List Response) (s' : Store.Memory),
      responses.length = arrivals.length ∧
        inTurn (arrivals.map (serveArrived scheme)) s σ = (responses.map .ok, s') := by
  induction arrivals generalizing s σ with
  | nil => exact ⟨[], s, rfl, rfl⟩
  | cons arrived arrivals ih =>
      obtain ⟨lib, r⟩ := arrived
      obtain ⟨response, hresponse, -⟩ :=
        (ends_serve lib scheme r).run Service.World.answer ⟨s, σ, []⟩
      let w := (Service.alone (serve lib scheme r) s σ).2
      have hfirst : Service.alone (serve lib scheme r) s σ = (.ok response, w) :=
        Prod.ext hresponse rfl
      obtain ⟨responses, s', hlength, hrest⟩ := ih w.store w.supply
      refine ⟨response :: responses, s', congrArg (· + 1) hlength, ?_⟩
      rw [List.map_cons, inTurn, hfirst]
      dsimp only
      rw [hrest]
      rfl

/-- **The two base paths are interchangeable** at every point of a run.  In a request whose path
lies below one of them, the other can take its place.  Requests that differ in this way alone have
the same plan, and so, whichever requests of a sequence are changed like that, after any number of
them the responses are the same, and the store is.  What libraries add may differ from request to
request, but it is the same for the one that is changed. -/
theorem base_paths_interchangeable (scheme : Identity.Scheme) :
    (∀ base ∈ Endpoint.basePaths, ∀ base' ∈ Endpoint.basePaths, ∀ r : Request,
      (Http.Path.below? base.toList r.path.toList).isSome → SameBelow r (r.rebase base base')) ∧
    (∀ (lib : Libraries) (r r' : Request), SameBelow r r' →
      serve lib scheme r' = serve lib scheme r) ∧
    ∀ arrivals arrivals' : List (Libraries × Request),
      List.Forall₂ SameArrival arrivals arrivals' →
      ∀ (σ : Supply) (n : Nat), ∃ (responses : List Response) (s : Store.Memory),
        responses.length = min n arrivals.length ∧
        inTurn ((arrivals.take n).map (serveArrived scheme)) {} σ = (responses.map .ok, s) ∧
        inTurn ((arrivals'.take n).map (serveArrived scheme)) {} σ = (responses.map .ok, s) := by
  refine ⟨?_, fun lib r r' h => serve_of_sameBelow h lib scheme, ?_⟩
  · intro base hbase base' hbase' r h
    obtain ⟨rest, hrest⟩ := Option.isSome_iff_exists.mp h
    exact sameBelow_rebase hbase hbase' hrest
  · intro arrivals arrivals' h σ n
    have hplans : arrivals'.map (serveArrived scheme) = arrivals.map (serveArrived scheme) := by
      induction h with
      | nil => rfl
      | cons hr _ ih => rw [List.map_cons, List.map_cons, ih, serveArrived_of_sameArrival hr]
    obtain ⟨responses, s, hlength, hrun⟩ := inTurn_serve scheme (arrivals.take n) {} σ
    refine ⟨responses, s, hlength.trans List.length_take, hrun, ?_⟩
    rw [List.map_take, hplans, ← List.map_take, hrun]

/-- A group that is made below one base path is found below the other. -/
theorem group_found_below_other_base_path :
    let lib := Libraries.plain
    let scheme : Identity.Scheme := { kind := .dummy }
    let post : Request :=
      { method := "POST", target := "/api/data/groups",
        headers := [("content-type", "application/json"),
          ("authorization", "Bearer \x7b\"id\":\"ada\"\x7d")]
        body := Text.bytes "\x7b\"name\":\"Lab\",\"slug\":\"lab\"\x7d" }
    let get : Request := ⟨"GET", "/api/data/groups/lab", [], []⟩
    let moved := post.rebase "/api/data" "/ui-server/api/data"
    moved.target = "/ui-server/api/data/groups" ∧
      ∃ (responses : List Response) (s : Store.Memory),
        inTurn [serve lib scheme post, serve lib scheme get] {} .counting =
          (responses.map .ok, s) ∧
        inTurn [serve lib scheme moved, serve lib scheme get] {} .counting =
          (responses.map .ok, s) ∧
        responses.map (·.status) = [201, 200] := by
  intro lib scheme post get moved
  obtain ⟨hrebase, -, hruns⟩ := base_paths_interchangeable scheme
  have hmoved : SameBelow post moved :=
    hrebase _ List.mem_cons_self _ (List.mem_cons_of_mem _ List.mem_cons_self) post
      (by decide +kernel +zetaReduce)
  obtain ⟨responses, s, -, hrun, hrun'⟩ := hruns [(lib, post), (lib, get)]
    [(lib, moved), (lib, get)]
    (.cons ⟨rfl, .inr hmoved⟩ (.cons ⟨rfl, .inl rfl⟩ .nil)) .counting 2
  refine ⟨by decide +kernel +zetaReduce, responses, s, hrun, hrun', ?_⟩
  have hstatus : (inTurn [serve lib scheme post, serve lib scheme get] {} .counting).1.filterMap
      (fun o => o.toOption.map (·.status)) = [201, 200] := by decide +kernel +zetaReduce
  have hanswers : inTurn [serve lib scheme post, serve lib scheme get] {} .counting =
      (responses.map .ok, s) := hrun
  rw [hanswers, List.filterMap_map] at hstatus
  exact (congrFun List.filterMap_eq_map responses).symm.trans hstatus

end Api

end Roster
