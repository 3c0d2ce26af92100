import WindowChrome.Preferences
import WindowChrome.Proofs.Host.Lasting

/-!
# What is asked of the configuration

A host writes nothing but flags, and each of its loads asks for a sync after
every write.
-/

namespace WindowChrome

open Config (Request Store)

namespace Config

namespace Store

def obey (store : Store) : Request → Store
  | .write group key value => store.write group key value
  | .sync => store.synced

def obeyAll (store : Store) (requests : List Request) : Store :=
  requests.foldl obey store

theorem obeyAll_append (store : Store) (first second : List Request) :
    store.obeyAll (first ++ second) = (store.obeyAll first).obeyAll second :=
  List.foldl_append

theorem obeyAll_concat (store : Store) (requests : List Request)
    (request : Request) :
    store.obeyAll (requests ++ [request]) =
      (store.obeyAll requests).obey request :=
  store.obeyAll_append requests [request]

theorem journal_obeyAll (store : Store) (requests : List Request) :
    (store.obeyAll requests).journal = store.journal ++ requests := by
  induction requests generalizing store with
  | nil => exact (List.append_nil store.journal).symm
  | cons request rest ih =>
      have hrequest : (store.obey request).journal =
          store.journal ++ [request] := by
        cases request <;> rfl
      apply (ih (store.obey request)).trans
      rw [hrequest, List.append_assoc, List.singleton_append]

theorem read_obeyAll {group key : String} {requests : List Request}
    (hspared : ∀ value, .write group key value ∉ requests) (store : Store) :
    (store.obeyAll requests).read group key = store.read group key := by
  induction requests generalizing store with
  | nil => rfl
  | cons request rest ih =>
      have hrest := ih
        (fun value hmem => hspared value (List.mem_cons_of_mem _ hmem))
        (store.obey request)
      apply hrest.trans
      cases request with
      | sync => rfl
      | write otherGroup otherKey value =>
          apply (store.read_write _ _ _ _ _).trans
          rw [if_neg]
          intro hsame
          cases hsame
          exact hspared value List.mem_cons_self

end Store

/-- The store that would have come of operations if only their writes from
outside had been done, the latest operation first. -/
def Store.outside {ω : Type} (outside? : ω → Option Request) (store : Store)
    (operations : List ω) : Store :=
  store.obeyAll (operations.reverse.filterMap outside?)

theorem Store.outside_cons {ω : Type} (outside? : ω → Option Request)
    (store : Store) (operation : ω) (earlier : List ω) :
    store.outside outside? (operation :: earlier) =
      match outside? operation with
      | none => store.outside outside? earlier
      | some request => (store.outside outside? earlier).obey request := by
  unfold outside
  rw [List.reverse_cons, List.filterMap_append]
  cases houtside : outside? operation with
  | none => simp [houtside]
  | some request => simp [houtside, obeyAll_concat]

def Request.Settled : List Request → Prop
  | [] => True
  | .sync :: rest => Settled rest
  | .write _ _ _ :: rest => .sync ∈ rest ∧ Settled rest

namespace Request

theorem Settled.append {first second : List Request}
    (hfirst : Settled first) (hsecond : Settled second) :
    Settled (first ++ second) := by
  induction first with
  | nil => exact hsecond
  | cons request rest ih =>
      cases request with
      | sync => exact ih hfirst
      | write group key value =>
          exact ⟨List.mem_append_left _ hfirst.1, ih hfirst.2⟩

theorem settled_concat_sync (requests : List Request) :
    Settled (requests ++ [.sync]) := by
  induction requests with
  | nil => trivial
  | cons request rest ih =>
      cases request with
      | sync => exact ih
      | write group key value => exact ⟨by simp, ih⟩

/-- A request that the decoration layer makes on its own account, while it
applies a theme or none and runs some loads. -/
inductive Own (theme? : Option Int) (runs : List LoadRun) : Request → Prop
  | color {id : Int} {group key : String} {color : Color}
      (htheme : theme? = some id)
      (hentry : (group, key, color) ∈
        Preferences.colorEntries (.ofTheme id)) :
      Own theme? runs (.write group key color.text)
  | flag {run : LoadRun} (hrun : run ∈ runs) (on : Bool) :
      Own theme? runs (.write compositingGroup (flagKey run.name)
        (if on then "true" else "false"))
  | sync : Own theme? runs .sync

theorem Own.mono {theme? : Option Int} {runs others : List LoadRun}
    {request : Request} (hown : Own theme? runs request)
    (hsubset : runs ⊆ others) : Own theme? others request := by
  cases hown with
  | color htheme hentry => exact .color htheme hentry
  | flag hrun on => exact .flag (hsubset hrun) on
  | sync => exact .sync

theorem Own.of_unthemed {theme? : Option Int} {runs : List LoadRun}
    {request : Request} (hown : Own none runs request) :
    Own theme? runs request := by
  cases hown with
  | color htheme _ => cases htheme
  | flag hrun on => exact .flag hrun on
  | sync => exact .sync

def mark (name : String) (on : Bool) : List Request :=
  [.write compositingGroup (flagKey name) (if on then "true" else "false"),
    .sync]

theorem settled_mark (name : String) (on : Bool) : Settled (mark name on) :=
  settled_concat_sync [_]

theorem own_of_mem_mark {theme? : Option Int} {runs : List LoadRun}
    {run : LoadRun} {on : Bool} {request : Request} (hrun : run ∈ runs)
    (hrequest : request ∈ mark run.name on) : Own theme? runs request := by
  simp only [mark, List.mem_cons, List.not_mem_nil, or_false] at hrequest
  rcases hrequest with rfl | rfl
  · exact .flag hrun on
  · exact .sync

end Request

def colorKeys : List (String × String) :=
  [(viewColorsGroup, "BackgroundNormal"), (viewColorsGroup, "ForegroundNormal"),
    (windowColorsGroup, "BackgroundNormal"),
    (windowColorsGroup, "ForegroundNormal"),
    (windowColorsGroup, "ForegroundInactive")]

theorem mem_colorKeys {palette : Palette} {group key : String} {color : Color}
    (hentry : (group, key, color) ∈ Preferences.colorEntries palette) :
    (group, key) ∈ colorKeys := by
  have hkeys : (Preferences.colorEntries palette).map
      (fun entry => (entry.1, entry.2.1)) = colorKeys := rfl
  rw [← hkeys]
  exact List.mem_map_of_mem hentry

/-- The stores read alike under every key that is not the layer's own: neither
that of a color nor that of the flag of a backend that was loaded. -/
def Store.AlikeButOwn (store : Store) (runs : List LoadRun)
    (later : Store) : Prop :=
  ∀ group key, (group, key) ∉ colorKeys →
    (∀ run ∈ runs, (group, key) ≠ (compositingGroup, flagKey run.name)) →
    later.read group key = store.read group key

namespace Store.AlikeButOwn

variable {store later : Store} {runs : List LoadRun}

theorem obey (halike : store.AlikeButOwn runs later) (request : Request) :
    (store.obey request).AlikeButOwn runs (later.obey request) := by
  intro group key hcolor hflag
  have hread := halike group key hcolor hflag
  cases request with
  | sync => exact hread
  | write otherGroup otherKey value =>
      simp only [Store.obey, read_write, hread]

theorem obeyAll {theme? : Option Int} {others : List LoadRun}
    {requests : List Request} (halike : store.AlikeButOwn runs later)
    (hown : ∀ request ∈ requests, request.Own theme? others) :
    store.AlikeButOwn (runs ++ others) (later.obeyAll requests) := by
  intro group key hcolor hflag
  have hspared : ∀ value, .write group key value ∉ requests := by
    intro value hmem
    cases hown _ hmem with
    | color _ hentry => exact hcolor (mem_colorKeys hentry)
    | flag hrun _ => exact hflag _ (List.mem_append_right _ hrun) rfl
  rw [read_obeyAll hspared]
  exact halike group key hcolor
    fun run hrun => hflag run (List.mem_append_left _ hrun)

theorem alikeIn {group : String} (halike : store.AlikeButOwn runs later)
    (hview : group ≠ viewColorsGroup) (hwindow : group ≠ windowColorsGroup)
    (hcompositing : group ≠ compositingGroup) : store.AlikeIn group later := by
  intro key
  apply halike group key
  · simp [colorKeys, hview, hwindow]
  · intro run _ hsame
    exact hcompositing (congrArg Prod.fst hsame)

theorem compositor_eq (halike : store.AlikeButOwn runs later) :
    later.compositor = store.compositor := by
  have hread : later.read compositingGroup "Backend" =
      store.read compositingGroup "Backend" := by
    apply halike
    · decide
    · intro run _ hsame
      have hkey : "Backend" = run.name ++ "IsUnsafe" :=
        congrArg Prod.snd hsame
      have hchars := congrArg (fun text => text.toList.getLast?) hkey
      simp at hchars
  unfold compositor entry
  rw [hread]

end Store.AlikeButOwn
end Config

namespace Hub

structure Requested (theme? : Option Int) (known : List String) (hub : Hub)
    (requests : List Request) (runs : List LoadRun) (later : Hub) : Prop where
  store_eq : later.store = hub.store.obeyAll requests
  loads_eq : later.loads = hub.loads ++ runs
  known : ∀ run ∈ runs, run.name ∈ known
  own : ∀ request ∈ requests, request.Own theme? runs
  settled : Request.Settled requests

def KeptToOwn (theme? : Option Int) (known : List String)
    (hub later : Hub) : Prop :=
  ∃ requests runs, hub.Requested theme? known requests runs later

namespace KeptToOwn

variable {theme? : Option Int} {known : List String} {hub middle later : Hub}

theorem of_eq (hstore : later.store = hub.store)
    (hloads : later.loads = hub.loads) : hub.KeptToOwn theme? known later :=
  ⟨[], [], hstore, by simp [hloads], by simp, by simp, trivial⟩

theorem trans (hfirst : hub.KeptToOwn theme? known middle)
    (hsecond : middle.KeptToOwn theme? known later) :
    hub.KeptToOwn theme? known later := by
  obtain ⟨requests, runs, hfirst⟩ := hfirst
  obtain ⟨others, otherRuns, hsecond⟩ := hsecond
  refine ⟨requests ++ others, runs ++ otherRuns, ?_, ?_, ?_, ?_, ?_⟩
  · rw [hsecond.store_eq, hfirst.store_eq, Store.obeyAll_append]
  · rw [hsecond.loads_eq, hfirst.loads_eq, List.append_assoc]
  · intro run hrun
    rcases List.mem_append.mp hrun with hrun | hrun
    · exact hfirst.known run hrun
    · exact hsecond.known run hrun
  · intro request hrequest
    rcases List.mem_append.mp hrequest with hrequest | hrequest
    · exact (hfirst.own request hrequest).mono (List.subset_append_left _ _)
    · exact (hsecond.own request hrequest).mono (List.subset_append_right _ _)
  · exact hfirst.settled.append hsecond.settled

theorem alikeButOwn {store : Store} (hkept : hub.KeptToOwn theme? known later)
    (halike : store.AlikeButOwn hub.loads hub.store) :
    store.AlikeButOwn later.loads later.store := by
  obtain ⟨requests, runs, hkept⟩ := hkept
  rw [hkept.store_eq, hkept.loads_eq]
  exact halike.obeyAll hkept.own

theorem of_unthemed (hkept : hub.KeptToOwn none known later) :
    hub.KeptToOwn theme? known later := by
  obtain ⟨requests, runs, hkept⟩ := hkept
  exact ⟨requests, runs, hkept.store_eq, hkept.loads_eq, hkept.known,
    fun request hrequest => (hkept.own request hrequest).of_unthemed,
    hkept.settled⟩

end KeptToOwn
end Hub

theorem Catalog.names_loadItem {catalog : Catalog} {name : String}
    {item : Catalog.Item} (hfind : catalog.find? name = some item) :
    (catalog.loadItem name item).2.names = catalog.names := by
  unfold loadItem names
  rw [Keyed.keys_insert, if_pos (Keyed.mem_keys_of_find? hfind)]

namespace Host

variable {host : Host} {hub : Hub} {name : String}

theorem loadGuarded_kept_of_unflagged {item : Catalog.Item}
    (hfind : host.catalog.find? name = some item)
    (hunflagged : hub.store.isFlagged name = false) :
    hub.KeptToOwn none host.catalog.names (host.loadGuarded hub name).2.2 := by
  have hknown : name ∈ host.catalog.names := Keyed.mem_keys_of_find? hfind
  let run : LoadRun :=
    ⟨name, item.supplier.builtIn, hub.store.obeyAll (Request.mark name true)⟩
  have hown : ∀ on, ∀ request ∈ Request.mark name on,
      request.Own none [run] :=
    fun on request hrequest =>
      Request.own_of_mem_mark (List.mem_singleton_self run) hrequest
  have hsettled := Request.settled_mark name
  unfold loadGuarded
  simp only [hfind, hunflagged, Bool.false_eq_true, if_false]
  cases hhangs : item.supplier.hangs with
  | false =>
      refine ⟨Request.mark name true ++ Request.mark name false, [run], rfl,
        rfl, by simpa [run] using hknown, ?_,
        (hsettled true).append (hsettled false)⟩
      intro request hrequest
      rcases List.mem_append.mp hrequest with hbegun | hover
      · exact hown true request hbegun
      · exact hown false request hover
  | true =>
      refine ⟨Request.mark name true ++
          (Request.mark name true ++ Request.mark name false), [run], rfl,
        rfl, by simpa [run] using hknown, ?_,
        (hsettled true).append ((hsettled true).append (hsettled false))⟩
      intro request hrequest
      rcases List.mem_append.mp hrequest with hbegun | hlater
      · exact hown true request hbegun
      · rcases List.mem_append.mp hlater with hgivenUp | hover
        · exact hown true request hgivenUp
        · exact hown false request hover

theorem loadGuarded_kept (host : Host) (hub : Hub) (name : String) :
    (host.loadGuarded hub name).2.1.catalog.names = host.catalog.names ∧
      hub.KeptToOwn none host.catalog.names
        (host.loadGuarded hub name).2.2 := by
  cases hfind : host.catalog.find? name with
  | none =>
      rw [loadGuarded_of_unknown hfind]
      exact ⟨rfl, .of_eq rfl rfl⟩
  | some item =>
      cases hflagged : hub.store.isFlagged name with
      | true =>
          rw [loadGuarded_of_flagged hfind hflagged]
          exact ⟨rfl, .of_eq rfl rfl⟩
      | false =>
          refine ⟨?_, loadGuarded_kept_of_unflagged hfind hflagged⟩
          obtain ⟨_, _, _, _, _, hload⟩ :=
            loadGuarded_of_unflagged hfind hflagged
          rw [hload, Catalog.load_of_find? hfind]
          exact Catalog.names_loadItem hfind

theorem switchTo_kept (host : Host) (hub : Hub) (name : String) :
    (host.switchTo hub name).2.1.catalog.names = host.catalog.names ∧
      hub.KeptToOwn none host.catalog.names (host.switchTo hub name).2.2 := by
  cases hoff : host.off with
  | true =>
      rw [switchTo_of_off hoff]
      exact ⟨rfl, .of_eq rfl rfl⟩
  | false =>
      by_cases hsame : host.liveName? = some name
      · obtain ⟨live, hlive, hname⟩ := exists_live_of_liveName? hsame
        rw [switchTo_of_live hoff hlive hname]
        exact ⟨rfl, .of_eq rfl rfl⟩
      · have hkept := host.loadGuarded_kept hub name
        rcases hload : host.loadGuarded hub name with ⟨loaded, next, later⟩
        rw [hload] at hkept
        cases loaded with
        | error error =>
            rw [switchTo_of_refused hoff hsame hload]
            exact hkept
        | ok backend =>
            rw [switchTo_of_delivered hoff hsame hload]
            simp only [install_fst, install_snd]
            exact ⟨hkept.1, hkept.2.trans (.of_eq rfl rfl)⟩

theorem upheld_keptToOwn (catalog : Catalog) (hub : Hub) :
    Upheld fun next later => next.catalog.names = catalog.names ∧
      hub.KeptToOwn none catalog.names later where
  switchTo := by
    rintro next later ⟨hnames, hkept⟩ name
    obtain ⟨hnextNames, hnextKept⟩ := next.switchTo_kept later name
    rw [hnames] at hnextNames hnextKept
    exact ⟨hnextNames, hkept.trans hnextKept⟩
  adjusted := by
    rintro _ _ _ _ ⟨hnames, hkept⟩ hadjusted
    rw [hadjusted.catalog_eq]
    exact ⟨hnames,
      hkept.trans (.of_eq hadjusted.store_eq hadjusted.loads_eq)⟩

def Operation.outside? : Operation → Option Request
  | .write group key value => some (.write group key value)
  | _ => none

theorem perform_kept (host : Host) (hub : Hub) {operation : Operation}
    (hhost : operation.outside? = none) :
    (host.perform hub operation).1.catalog.names = host.catalog.names ∧
      hub.KeptToOwn none host.catalog.names
        (host.perform hub operation).2 := by
  apply (upheld_keptToOwn host.catalog hub).perform ⟨rfl, .of_eq rfl rfl⟩
  intro group key value hoperation
  rw [hoperation] at hhost
  cases hhost

theorem after_kept (catalog : Catalog) (store : Store)
    (operations : List Operation) :
    (after catalog store operations).1.catalog.names = catalog.names ∧
      (store.outside Operation.outside? operations).AlikeButOwn
        (after catalog store operations).2.loads
        (after catalog store operations).2.store := by
  induction operations with
  | nil => exact ⟨rfl, fun _ _ _ _ => rfl⟩
  | cons operation earlier ih =>
      obtain ⟨hnames, halike⟩ := ih
      rw [Store.outside_cons]
      cases houtside : operation.outside? with
      | none =>
          obtain ⟨hkeptNames, hkept⟩ := perform_kept
            (after catalog store earlier).1 (after catalog store earlier).2
            houtside
          exact ⟨hkeptNames.trans hnames, hkept.alikeButOwn halike⟩
      | some request =>
          cases operation with
          | write group key value =>
              cases houtside
              exact ⟨hnames, halike.obey _⟩
          | _ => cases houtside

end Host
end WindowChrome
