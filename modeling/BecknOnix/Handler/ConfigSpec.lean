/-
  BecknOnix.Handler.ConfigSpec

  Which module configs `NewStdHandler` accepts.

  `initPlugins` sets each capability exactly when its plugin is configured (`Mirrors`,
  `initPlugins_mirrors`), so whether a built-in step builds depends on the config alone:
  `sign` needs a Signer and a KeyManager, `validateSign` a SignValidator and a
  KeyManager, the others the one plugin their constructor checks (`stepNeeds`). With
  `initSteps_ok_iff` this gives `newStdHandler_ok_iff`: the plugins load, the step plugins
  load, and every name of `cfg.Steps` has what it needs; a custom name needs a step plugin
  of that id, and nothing else about the config is checked.
-/
import BecknOnix.Handler.InitStepsSpec

namespace BecknOnix.Handler

open BecknOnix.Go

/-! ## Capabilities follow the config -/

/-- The capabilities the step constructors read are set exactly when their plugins are
    configured. -/
structure Mirrors (h : StdHandler) (cfg : PluginCfg) : Prop where
  signer : h.signer.isSome = cfg.signer.isSome
  km : h.km.isSome = cfg.keyManager.isSome
  signValidator : h.signValidator.isSome = cfg.signValidator.isSome
  schemaValidator : h.schemaValidator.isSome = cfg.schemaValidator.isSome
  router : h.router.isSome = cfg.router.isSome
  ondcValidator : h.ondcValidator.isSome = cfg.ondcValidator.isSome
  ondcWorkbench : h.ondcWorkbench.isSome = cfg.ondcWorkbench.isSome

/-- `loadPlugin` gives a plugin exactly when one is configured. -/
theorem loadPlugin_isSome {α : Type} {name : String} {cfg : Option PluginConfig}
    {mgrFunc : PluginConfig → Except GoError α} {p : Option α} (h : loadPlugin name cfg mgrFunc = .ok p) :
    p.isSome = cfg.isSome := by
  cases cfg with
  | none => cases h; rfl
  | some c =>
    unfold loadPlugin at h
    dsimp only at h
    split at h
    · cases h
    · cases h; rfl

/-- `loadKeyManager` gives a KeyManager exactly when one is configured. -/
theorem loadKeyManager_isSome {mgr : PluginManager} {cache registry : Option Handle}
    {cfg : Option PluginConfig} {km : Option KeyManager} (h : loadKeyManager mgr cache registry cfg = .ok km) :
    km.isSome = cfg.isSome := by
  cases cfg with
  | none => cases h; rfl
  | some c =>
    unfold loadKeyManager at h
    dsimp only at h
    repeat' split at h
    all_goals cases h
    rfl

/-- After `initPlugins` each capability is set exactly when its plugin is configured. -/
theorem initPlugins_mirrors {h h' : StdHandler} {mgr : PluginManager} {cfg : PluginCfg}
    (hp : initPlugins h mgr cfg = .ok h') : Mirrors h' cfg := by
  unfold initPlugins at hp
  obtain ⟨_, -, hp⟩ := bind_eq_ok hp
  obtain ⟨_, -, hp⟩ := bind_eq_ok hp
  obtain ⟨_, hkm, hp⟩ := bind_eq_ok hp
  obtain ⟨_, hsv, hp⟩ := bind_eq_ok hp
  obtain ⟨_, hsch, hp⟩ := bind_eq_ok hp
  obtain ⟨_, hrouter, hp⟩ := bind_eq_ok hp
  obtain ⟨_, -, hp⟩ := bind_eq_ok hp
  obtain ⟨_, hsigner, hp⟩ := bind_eq_ok hp
  obtain ⟨_, -, hp⟩ := bind_eq_ok hp
  obtain ⟨_, hov, hp⟩ := bind_eq_ok hp
  obtain ⟨_, how, hp⟩ := bind_eq_ok hp
  cases hp
  exact ⟨loadPlugin_isSome hsigner, loadKeyManager_isSome hkm, loadPlugin_isSome hsv,
    loadPlugin_isSome hsch, loadPlugin_isSome hrouter, loadPlugin_isSome hov, loadPlugin_isSome how⟩

/-! ## What a step needs -/

/-- What a name of `cfg.Steps` needs from the plugin config: for a built-in name, the
    plugins its constructor checks; for any other, a step plugin of that id. -/
def stepNeeds (cfg : PluginCfg) (name : String) : Bool :=
  match name with
  | "sign" => cfg.signer.isSome && cfg.keyManager.isSome
  | "validateSign" => cfg.signValidator.isSome && cfg.keyManager.isSome
  | "validateSchema" => cfg.schemaValidator.isSome
  | "addRoute" => cfg.router.isSome
  | "validateOndcPayload" => cfg.ondcValidator.isSome
  | "validateOndcCallSave" => cfg.ondcValidator.isSome
  | "ondcWorkbenchReceiver" => cfg.ondcWorkbench.isSome
  | "ondcWorkbenchValidateContext" => cfg.ondcWorkbench.isSome
  | _ => cfg.steps.any (·.id == name)

/-- A one-capability constructor builds exactly when the capability is set. -/
theorem newStepWith_isOk {α : Type} {plugin : String} {p : Option α} {mk : α → Step} :
    (∃ b, newStepWith plugin p mk = .ok b) ↔ p.isSome := by
  cases p with
  | none => exact iff_of_false (fun ⟨_, h⟩ => nomatch h) nofun
  | some x => exact iff_of_true ⟨_, rfl⟩ rfl

theorem newSignStep_isOk {signer : Option Signer} {km : Option KeyManager} :
    (∃ b, newSignStep signer km = .ok b) ↔ (signer.isSome && km.isSome) := by
  cases signer <;> cases km <;>
    first
      | exact iff_of_true ⟨_, rfl⟩ rfl
      | exact iff_of_false (fun ⟨_, h⟩ => nomatch h) nofun

theorem newValidateSignStep_isOk {v : Option SignValidator} {km : Option KeyManager} :
    (∃ b, newValidateSignStep v km = .ok b) ↔ (v.isSome && km.isSome) := by
  cases v <;> cases km <;>
    first
      | exact iff_of_true ⟨_, rfl⟩ rfl
      | exact iff_of_false (fun ⟨_, h⟩ => nomatch h) nofun

/-- With the capabilities following the config, a built-in name builds exactly when the
    config has what it needs. -/
theorem buildStep_builtin_isOk {h : StdHandler} {cfg : PluginCfg} (hm : Mirrors h cfg) {name : String}
    (hn : name ∈ builtinStepNames) (custom : String → Option Step) :
    (∃ b, buildStep h custom name = .ok b) ↔ stepNeeds cfg name := by
  simp only [builtinStepNames, List.mem_cons, List.mem_singleton, List.not_mem_nil, or_false] at hn
  rcases hn with rfl | rfl | rfl | rfl | rfl | rfl | rfl | rfl
  · exact newSignStep_isOk.trans (by rw [hm.signer, hm.km]; rfl)
  · exact newValidateSignStep_isOk.trans (by rw [hm.signValidator, hm.km]; rfl)
  · exact newStepWith_isOk.trans (by rw [hm.schemaValidator]; rfl)
  · exact newStepWith_isOk.trans (by rw [hm.router]; rfl)
  · exact newStepWith_isOk.trans (by rw [hm.ondcValidator]; rfl)
  · exact newStepWith_isOk.trans (by rw [hm.ondcValidator]; rfl)
  · exact newStepWith_isOk.trans (by rw [hm.ondcWorkbench]; rfl)
  · exact newStepWith_isOk.trans (by rw [hm.ondcWorkbench]; rfl)

/-- Any other name needs a step plugin of that id. -/
theorem stepNeeds_custom (cfg : PluginCfg) {name : String} (hn : name ∉ builtinStepNames) :
    stepNeeds cfg name ↔ ∃ c ∈ cfg.steps, c.id = name := by
  simp only [builtinStepNames, List.mem_cons, List.mem_singleton, List.not_mem_nil, or_false,
    not_or] at hn
  obtain ⟨h1, h2, h3, h4, h5, h6, h7, h8⟩ := hn
  have hany : stepNeeds cfg name = cfg.steps.any (·.id == name) := by
    unfold stepNeeds
    split <;> first | contradiction | rfl
  simp only [hany, List.any_eq_true, beq_iff_eq]

/-! ## `NewStdHandler` -/

/-- Which module configs `NewStdHandler` accepts: exactly those whose plugins load, whose
    step plugins load, and each name of whose `Steps` has what it needs: a built-in name
    the plugins its constructor checks, any other name a step plugin of that id. -/
theorem newStdHandler_ok_iff {mgr : PluginManager} {cfg : Config} {moduleName : String}
    {wrapErr : String → Option GoError} :
    (∃ h, newStdHandler mgr cfg moduleName wrapErr = .ok h) ↔
      (∃ h₁, initPlugins { subscriberID := cfg.subscriberID, role := cfg.role, moduleName } mgr
        cfg.plugins = .ok h₁) ∧
      (∀ c ∈ cfg.plugins.steps, ∃ s, mgr.step c = .ok s) ∧
      ∀ name ∈ cfg.steps, stepNeeds cfg.plugins name := by
  unfold newStdHandler
  dsimp only
  cases hp : initPlugins { subscriberID := cfg.subscriberID, role := cfg.role, moduleName } mgr cfg.plugins with
  | error err => exact iff_of_false (fun ⟨_, h⟩ => nomatch h) fun ⟨⟨_, h⟩, _⟩ => nomatch h
  | ok h₁ =>
    dsimp only
    have hm := initPlugins_mirrors hp
    have hname : ∀ name, (if name ∈ builtinStepNames then ∃ b, buildStep h₁ (fun _ => none) name = .ok b
        else ∃ c ∈ cfg.plugins.steps, c.id = name) ↔ stepNeeds cfg.plugins name := fun name => by
      split_ifs with hn
      · exact buildStep_builtin_isOk hm hn _
      · exact (stepNeeds_custom cfg.plugins hn).symm
    have hsteps := @initSteps_ok_iff h₁ mgr cfg wrapErr
    simp only [hname] at hsteps
    rw [and_iff_right ⟨h₁, rfl⟩, ← hsteps]
    cases initSteps h₁ mgr cfg wrapErr with
    | error err => exact iff_of_false (fun ⟨_, h⟩ => nomatch h) fun ⟨_, h⟩ => nomatch h
    | ok h₂ => exact iff_of_true ⟨_, rfl⟩ ⟨_, rfl⟩

end BecknOnix.Handler
