import WindowChrome.Proofs.Decorator.Passing
import WindowChrome.Proofs.Host.Journal

/-!
# The user's configuration is left alone

The layer touches the five colors and the flags of the backends it loaded, and
asks for a sync after every write.
-/

namespace WindowChrome

open Config (Request Store)

namespace Preferences

theorem exportColors_eq (palette : Palette) (store : Store) :
    exportColors palette store = store.obeyAll
      ((colorEntries palette).map (fun (group, key, color) =>
        .write group key color.text) ++ [.sync]) := rfl

theorem own_of_mem_export {id : Int} {request : Request}
    (hrequest : request ∈ (colorEntries (.ofTheme id)).map
      (fun (group, key, color) => Request.write group key color.text) ++
        [.sync]) : request.Own (some id) [] := by
  rcases List.mem_append.mp hrequest with hcolor | hsync
  · obtain ⟨⟨group, key, color⟩, hentry, rfl⟩ := List.mem_map.mp hcolor
    exact .color rfl hentry
  · rw [List.mem_singleton] at hsync
    rw [hsync]
    exact .sync

end Preferences

namespace Decorator

namespace Operation

def theme? : Operation → Option Int
  | .start session _ => some session.themeId
  | .handle _ (.theme id) => some id
  | _ => none

def outside? : Operation → Option Request
  | .write group key value => some (.write group key value)
  | _ => none

end Operation

variable {decorator ready later : Decorator} {operation : Operation}

theorem applyTheme_kept (decorator : Decorator) (id : Int)
    (known : List String) :
    decorator.hub.KeptToOwn (some id) known
      (decorator.applyTheme id).hub := by
  refine ⟨_, [], Preferences.exportColors_eq (.ofTheme id) _, ?_, by simp,
    fun request hrequest => Preferences.own_of_mem_export hrequest,
    Request.settled_concat_sync _⟩
  rw [List.append_nil]
  rfl

theorem Ready.kept (hready : decorator.Ready operation ready) :
    ready.host.catalog.names = decorator.host.catalog.names ∧
      decorator.hub.KeptToOwn operation.theme? decorator.host.catalog.names
        ready.hub := by
  have hhost := Host.upheld_keptToOwn decorator.host.catalog decorator.hub
  have hbegun : decorator.host.catalog.names = decorator.host.catalog.names ∧
      decorator.hub.KeptToOwn none decorator.host.catalog.names
        decorator.hub := ⟨rfl, .of_eq rfl rfl⟩
  cases hready with
  | start session workspace =>
      obtain ⟨hnames, hkept⟩ := hhost.start hbegun session
      have htheme := applyTheme_kept { decorator with
        host := (decorator.host.start decorator.hub session).1
        hub := (decorator.host.start decorator.hub session).2 }
        session.themeId decorator.host.catalog.names
      exact ⟨hnames,
        (hkept.of_unthemed.trans htheme).trans (.of_eq rfl rfl)⟩
  | window workspace id event => exact ⟨rfl, .of_eq rfl rfl⟩
  | theme workspace id => exact ⟨rfl, decorator.applyTheme_kept id _⟩
  | font workspace family size hpush => exact ⟨rfl, .of_eq rfl rfl⟩
  | dpi workspace dpi => exact ⟨rfl, .of_eq rfl rfl⟩
  | declared workspace => exact ⟨rfl, .of_eq rfl rfl⟩
  | reread workspace hstate =>
      obtain ⟨hnames, hkept⟩ := hhost.reconfigure hbegun workspace
      exact ⟨hnames, hkept.trans (.of_eq rfl rfl)⟩
  | cleared workspace hstate =>
      obtain ⟨hnames, hkept⟩ := hhost.reconfigure hbegun workspace
      exact ⟨hnames, hkept.trans (.of_eq rfl rfl)⟩

theorem Performed.kept (hperformed : decorator.Performed operation later)
    (hinside : operation.outside? = none) :
    later.host.catalog.names = decorator.host.catalog.names ∧
      decorator.hub.KeptToOwn operation.theme? decorator.host.catalog.names
        later.hub := by
  cases hperformed with
  | turned hready houtcome =>
      obtain ⟨commons, decorations, hdone⟩ := houtcome.eq
      obtain ⟨hnames, hkept⟩ := hready.kept
      rw [hdone]
      exact ⟨hnames, hkept.trans (.of_eq rfl rfl)⟩
  | decorated window hremade =>
      obtain ⟨commons, decorations, hlater⟩ := hremade.eq
      rw [hlater]
      exact ⟨rfl, .of_eq rfl rfl⟩
  | undecorated id => exact ⟨rfl, .of_eq rfl rfl⟩
  | written group key value => cases hinside
  | spared properties => exact ⟨rfl, .of_eq rfl rfl⟩

def after (catalog : Catalog) (store : Store) (properties : PropertyTable) :
    List Operation → Except Fault Decorator
  | [] => .ok (.new catalog store properties)
  | operation :: earlier => do
      let decorator ← after catalog store properties earlier
      decorator.perform operation

theorem after_kept {catalog : Catalog} {store : Store}
    {properties : PropertyTable} {operations : List Operation}
    (hafter : after catalog store properties operations = .ok decorator) :
    decorator.host.catalog.names = catalog.names ∧
      (store.outside Operation.outside? operations).AlikeButOwn
        decorator.hub.loads decorator.hub.store := by
  induction operations generalizing decorator with
  | nil =>
      cases hafter
      exact ⟨rfl, fun _ _ _ _ => rfl⟩
  | cons operation earlier ih =>
      simp only [after, bind_eq_ok_iff] at hafter
      obtain ⟨before, hbefore, hperform⟩ := hafter
      obtain ⟨hnames, halike⟩ := ih hbefore
      rw [Store.outside_cons]
      cases houtside : operation.outside? with
      | none =>
          obtain ⟨hkeptNames, hkept⟩ :=
            (performed_of_perform hperform).kept houtside
          exact ⟨hkeptNames.trans hnames, hkept.alikeButOwn halike⟩
      | some request =>
          cases operation with
          | write group key value =>
              cases houtside
              cases hperform
              exact ⟨hnames, halike.obey _⟩
          | _ => cases houtside

theorem after_options {catalog : Catalog} {store : Store}
    {properties : PropertyTable} {operations : List Operation}
    (hafter : after catalog store properties operations = .ok decorator) :
    (store.outside Operation.outside? operations).AlikeIn
        Config.decorationGroup decorator.hub.store ∧
      (store.outside Operation.outside? operations).AlikeIn
        Config.effectsGroup decorator.hub.store ∧
      decorator.hub.store.compositor =
        (store.outside Operation.outside? operations).compositor := by
  obtain ⟨-, halike⟩ := after_kept hafter
  exact ⟨halike.alikeIn (by decide) (by decide) (by decide),
    halike.alikeIn (by decide) (by decide) (by decide), halike.compositor_eq⟩

/-- On its own account the layer writes nothing but the colors of the theme
that it applies and the flags of known backends that it loads, and asks for a
sync after each write. -/
theorem configuration_kept (catalog : Catalog) (store : Store) :
    (∀ (earlier : List Host.Operation) (operation : Host.Operation),
      operation.outside? = none →
      (Host.after catalog store earlier).2.KeptToOwn none catalog.names
        (Host.after catalog store (operation :: earlier)).2) ∧
    (∀ operations : List Host.Operation,
      (store.outside Host.Operation.outside? operations).AlikeButOwn
        (Host.after catalog store operations).2.loads
        (Host.after catalog store operations).2.store) ∧
    (∀ (properties : PropertyTable) (earlier : List Operation)
        (operation : Operation) (before later : Decorator),
      after catalog store properties earlier = .ok before →
      before.perform operation = .ok later →
      operation.outside? = none →
      before.hub.KeptToOwn operation.theme? catalog.names later.hub) ∧
    ∀ (properties : PropertyTable) (operations : List Operation)
        (decorator : Decorator),
      after catalog store properties operations = .ok decorator →
      (store.outside Operation.outside? operations).AlikeButOwn
        decorator.hub.loads decorator.hub.store := by
  refine ⟨?_, ?_, ?_, ?_⟩
  · intro earlier operation hinside
    have hkept := Host.perform_kept (Host.after catalog store earlier).1
      (Host.after catalog store earlier).2 hinside
    rw [(Host.after_kept catalog store earlier).1] at hkept
    exact hkept.2
  · exact fun operations => (Host.after_kept catalog store operations).2
  · intro properties earlier operation before later hbefore hperform hinside
    have hkept := (performed_of_perform hperform).kept hinside
    rw [(after_kept hbefore).1] at hkept
    exact hkept.2
  · exact fun properties operations decorator hafter => (after_kept hafter).2

theorem configuration_kept_after_theme :
    ∃ before later : Decorator,
      after .standard { syncFault := some (.failed "store" "full") } .empty
        [.write Config.decorationGroup "library" Host.fallbackBackend,
          .start {} { windows := [] }] = .ok before ∧
      before.perform (.handle { windows := [] } (.theme 1)) = .ok later ∧
      Operation.outside? (.handle { windows := [] } (.theme 1)) = none ∧
      before.hub.KeptToOwn (some 1) Catalog.standard.names later.hub ∧
      later.hub.store.library Host.defaultBackend = Host.fallbackBackend ∧
      later.hub.store.read Config.viewColorsGroup "BackgroundNormal" =
        some (Palette.ofTheme 1).frame.text := by
  obtain ⟨before, later, hafter, hperform, hlibrary, hcolor⟩ :
      ∃ before later : Decorator,
        after .standard { syncFault := some (.failed "store" "full") } .empty
          [.write Config.decorationGroup "library" Host.fallbackBackend,
            .start {} { windows := [] }] = .ok before ∧
        before.perform (.handle { windows := [] } (.theme 1)) = .ok later ∧
        later.hub.store.library Host.defaultBackend = Host.fallbackBackend ∧
        later.hub.store.read Config.viewColorsGroup "BackgroundNormal" =
          some (Palette.ofTheme 1).frame.text :=
    ⟨_, _, rfl, rfl, by decide, by decide⟩
  obtain ⟨-, -, hkept, -⟩ :=
    configuration_kept .standard { syncFault := some (.failed "store" "full") }
  exact ⟨before, later, hafter, hperform, rfl,
    hkept .empty _ _ before later hafter hperform rfl, hlibrary, hcolor⟩

end Decorator
end WindowChrome
