import QueryChain.Settings.Source

/-!
# Loaded settings

The settings of a process are loaded once, on first use, and kept.  Loading them again replaces what
was kept; a change of the environment shows only then.

## Main definitions

* `SettingsStore` — the environment, and the settings that were loaded.
* `SettingsStore.get`, `SettingsStore.reload` — the settings, loaded if need be, or always.
-/

set_option relaxedAutoImplicit false
set_option autoImplicit false

namespace QueryChain

/-- The environment of a process, the settings that were loaded, and how often they were. -/
structure SettingsStore where
  environment : Variables
  loaded : Option Settings
  loads : Nat
deriving Repr

namespace SettingsStore

/-- A store in which nothing was loaded. -/
def start (environment : Variables) : SettingsStore := ⟨environment, none, 0⟩

/-- Sets a variable of the environment. -/
def setVariable (store : SettingsStore) (name value : String) : Except Fault SettingsStore :=
  (store.environment.put name value).map fun environment => { store with environment }

/-- Removes a variable of the environment. -/
def eraseVariable (store : SettingsStore) (name : String) : Except Fault SettingsStore :=
  (store.environment.remove name).map fun environment => { store with environment }

/-- Loads the settings.  What was loaded before stays when loading fails. -/
def reload (store : SettingsStore) : Except Failure Settings × SettingsStore :=
  match Settings.load [] store.environment [] with
  | .ok settings => (.ok settings, ⟨store.environment, some settings, store.loads + 1⟩)
  | .error f => (.error f, store)

/-- The settings that were loaded, or loads them. -/
def get (store : SettingsStore) : Except Failure Settings × SettingsStore :=
  match store.loaded with
  | some settings => (.ok settings, store)
  | none => store.reload

/-- Settings that were got once stay the same until they are loaded again. -/
theorem get_get {store next : SettingsStore} {settings : Settings}
    (h : store.get = (.ok settings, next)) : next.get = (.ok settings, next) := by
  unfold get at h
  split at h
  · next s hs =>
    obtain ⟨hv, rfl⟩ := Prod.mk.inj h
    cases hv
    simp [get, hs]
  · unfold reload at h
    split at h
    · obtain ⟨hv, rfl⟩ := Prod.mk.inj h
      cases hv
      rfl
    · cases (Prod.mk.inj h).1

end SettingsStore

end QueryChain
