/-
  BecknOnix.Handler.InitStepsSpec

  Which step each name of `cfg.Steps` becomes, and when `initSteps` fails.

  The first loop of `initSteps` files the step plugins by id, a later plugin replacing an
  earlier one of the same id: the map it builds is `lastWithId` of the loaded steps
  (`loadStepPlugins_eq_ok_iff`). The `switch` tries the eight built-in names before the
  map (`buildStep_builtin`, `buildStep_custom`), so a step plugin whose id is a built-in
  name is loaded and never used. `initSteps_ok_iff`: `initSteps` fails exactly when a
  step plugin fails to load or a name does not build; the ids of the step plugins play no
  other part, and `initSteps` never checks them. `initSteps_builtins_first` puts the
  three together.
-/
import Mathlib.Data.List.Forall2
import Mathlib.Data.List.Nodup
import BecknOnix.Handler.PipelineSpec

namespace BecknOnix.Handler

open BecknOnix.Go

/-! ## The custom-step map -/

/-- The names the `switch` of `initSteps` builds itself. -/
def builtinStepNames : List String :=
  ["sign", "validateSign", "validateSchema", "addRoute", "validateOndcPayload",
    "validateOndcCallSave", "ondcWorkbenchReceiver", "ondcWorkbenchValidateContext"]

/-- The step plugin `c` loaded as the pair `(c.ID, step)`. -/
def Loaded (mgr : PluginManager) (c : PluginConfig) (p : String × Step) : Prop :=
  p.1 = c.id ∧ mgr.step c = .ok p.2

/-- The custom step filed under an id: the one loaded last under it. -/
def lastWithId (loaded : List (String × Step)) (k : String) : Option Step :=
  (loaded.reverse.find? fun p => p.1 = k).map (·.2)

theorem lastWithId_cons (i : String) (s : Step) (loaded : List (String × Step)) (k : String) :
    lastWithId ((i, s) :: loaded) k = (lastWithId loaded k).or (if k = i then some s else none) := by
  unfold lastWithId
  rw [List.reverse_cons, List.find?_append]
  cases loaded.reverse.find? fun p => p.1 = k with
  | some p => rfl
  | none =>
    by_cases hk : k = i
    · simp [hk]
    · simp [hk, Ne.symm hk]

/-- Filing `(i, s)` before a list puts `s` under `i` in front of the fallback. -/
theorem lastWithId_cons_or (i : String) (s : Step) (loaded : List (String × Step)) (k : String)
    (o : Option Step) :
    (lastWithId ((i, s) :: loaded) k).or o = (lastWithId loaded k).or (if k = i then some s else o) := by
  rw [lastWithId_cons, Option.or_assoc]
  by_cases hk : k = i <;> simp [hk]

theorem lastWithId_isSome {loaded : List (String × Step)} {k : String} :
    (lastWithId loaded k).isSome ↔ ∃ p ∈ loaded, p.1 = k := by
  simp only [lastWithId, Option.isSome_map', List.find?_isSome, List.mem_reverse, decide_eq_true_eq]

/-- Loading keeps the ids, in order. -/
theorem Loaded.ids {mgr : PluginManager} {cs : List PluginConfig} {loaded : List (String × Step)}
    (h : List.Forall₂ (Loaded mgr) cs loaded) : loaded.map (·.1) = cs.map (·.id) := by
  induction h with
  | nil => rfl
  | cons hp _ ih => simp [hp.1, ih]

/-- The first loop succeeds exactly when every step plugin loads, and then maps each id
    to the step loaded last under it, falling back to the map it started from. -/
theorem loadStepPlugins_eq_ok_iff {mgr : PluginManager} :
    ∀ {cs : List PluginConfig} {init custom : String → Option Step},
      loadStepPlugins mgr cs init = .ok custom ↔
        ∃ loaded, List.Forall₂ (Loaded mgr) cs loaded ∧
          custom = fun k => (lastWithId loaded k).or (init k)
  | [], init, custom => by
    simp only [loadStepPlugins, Except.ok.injEq, List.forall₂_nil_left_iff, exists_eq_left]
    constructor <;> (rintro rfl; rfl)
  | c :: cs, init, custom => by
    simp only [loadStepPlugins, List.forall₂_cons_left_iff]
    cases hc : mgr.step c with
    | error err =>
      simp only [reduceCtorEq, false_iff, not_exists, not_and]
      rintro _ ⟨p, _, ⟨-, hp⟩, -, rfl⟩ -
      rw [hc] at hp
      cases hp
    | ok s =>
      simp only
      rw [loadStepPlugins_eq_ok_iff]
      constructor
      · rintro ⟨loaded, hl, rfl⟩
        exact ⟨(c.id, s) :: loaded, ⟨(c.id, s), loaded, ⟨rfl, hc⟩, hl, rfl⟩,
          funext fun k => (lastWithId_cons_or _ _ _ _ _).symm⟩
      · rintro ⟨_, ⟨p, loaded, ⟨hid, hp⟩, hl, rfl⟩, rfl⟩
        rw [hc, Except.ok.injEq] at hp
        obtain ⟨i, s'⟩ := p
        simp only at hid hp
        subst hid hp
        exact ⟨loaded, hl, funext fun k => lastWithId_cons_or _ _ _ _ _⟩

/-- The first loop succeeds exactly when every step plugin loads. -/
theorem loadStepPlugins_isOk_iff {mgr : PluginManager} :
    ∀ {cs : List PluginConfig} {init : String → Option Step},
      (∃ custom, loadStepPlugins mgr cs init = .ok custom) ↔ ∀ c ∈ cs, ∃ s, mgr.step c = .ok s
  | [], _ => iff_of_true ⟨_, rfl⟩ nofun
  | c :: cs, init => by
    simp only [loadStepPlugins, List.mem_cons, forall_eq_or_imp]
    cases mgr.step c with
    | error err => exact iff_of_false (fun ⟨_, h⟩ => nomatch h) fun ⟨⟨_, h⟩, _⟩ => nomatch h
    | ok s => exact loadStepPlugins_isOk_iff.trans (and_iff_right ⟨s, rfl⟩).symm

/-- A custom step filed under an id came from a step plugin of that id. -/
theorem lastWithId_loaded {mgr : PluginManager} {cs : List PluginConfig}
    {loaded : List (String × Step)} (hl : List.Forall₂ (Loaded mgr) cs loaded) {k : String}
    {s : Step} (hk : lastWithId loaded k = some s) : ∃ c ∈ cs, c.id = k ∧ mgr.step c = .ok s := by
  induction hl with
  | nil => cases hk
  | @cons c p cs loaded hp _ ih =>
    obtain ⟨i, t⟩ := p
    obtain ⟨rfl, hc⟩ := hp
    rw [lastWithId_cons] at hk
    cases hrest : lastWithId loaded k with
    | some s' =>
      rw [hrest] at hk
      obtain ⟨c', hc', hid, hs⟩ := ih (hrest.trans hk)
      exact ⟨c', List.mem_cons_of_mem _ hc', hid, hs⟩
    | none =>
      rw [hrest, Option.none_or] at hk
      split_ifs at hk with hki
      cases hk
      exact ⟨c, List.mem_cons_self _ _, hki.symm, hc⟩

/-- Some custom step is filed under an id exactly when a step plugin has that id. -/
theorem lastWithId_isSome_iff {mgr : PluginManager} {cs : List PluginConfig}
    {loaded : List (String × Step)} (hl : List.Forall₂ (Loaded mgr) cs loaded) {k : String} :
    (lastWithId loaded k).isSome ↔ ∃ c ∈ cs, c.id = k := by
  rw [lastWithId_isSome]
  have hk : k ∈ loaded.map (·.1) ↔ k ∈ cs.map (·.id) := by rw [Loaded.ids hl]
  simpa only [List.mem_map] using hk

/-- With one step plugin per id, the custom step filed under an id is the step its plugin
    loaded. -/
theorem lastWithId_unique {mgr : PluginManager} {cs : List PluginConfig}
    {loaded : List (String × Step)} (hl : List.Forall₂ (Loaded mgr) cs loaded)
    (hnodup : (cs.map (·.id)).Nodup) {k : String} {s : Step} (hk : lastWithId loaded k = some s) :
    ∀ c ∈ cs, c.id = k → mgr.step c = .ok s := by
  obtain ⟨c₀, hc₀, hid₀, hs₀⟩ := lastWithId_loaded hl hk
  intro c hc hid
  rwa [List.inj_on_of_nodup_map hnodup hc hc₀ (hid.trans hid₀.symm)]

/-! ## The `switch` -/

/-- A built-in name builds its built-in step whatever the custom steps are. -/
theorem buildStep_builtin (h : StdHandler) {name : String} (hn : name ∈ builtinStepNames)
    (custom custom' : String → Option Step) : buildStep h custom name = buildStep h custom' name := by
  simp only [builtinStepNames, List.mem_cons, List.mem_singleton, List.not_mem_nil, or_false] at hn
  rcases hn with rfl | rfl | rfl | rfl | rfl | rfl | rfl | rfl <;> rfl

/-- Any other name is looked up among the custom steps. -/
theorem buildStep_custom (h : StdHandler) {name : String} (hn : name ∉ builtinStepNames)
    (custom : String → Option Step) :
    buildStep h custom name = match custom name with
      | some s => .ok s
      | none => .error (.plain ("unrecognized step: " ++ name)) := by
  simp only [builtinStepNames, List.mem_cons, List.mem_singleton, List.not_mem_nil, or_false,
    not_or] at hn
  obtain ⟨h1, h2, h3, h4, h5, h6, h7, h8⟩ := hn
  unfold buildStep
  split <;> first | contradiction | rfl

/-- The building loop succeeds exactly when every name builds. -/
theorem registerSteps_isOk_iff {h : StdHandler} {custom : String → Option Step}
    {wrapErr : String → Option GoError} :
    ∀ {names : List String} {acc : List Step},
      (∃ steps, registerSteps h custom wrapErr names acc = .ok steps) ↔
        ∀ name ∈ names, ∃ b, buildStep h custom name = .ok b
  | [], _ => iff_of_true ⟨_, rfl⟩ nofun
  | name :: rest, acc => by
    simp only [registerSteps, List.mem_cons, forall_eq_or_imp]
    cases buildStep h custom name with
    | error err => exact iff_of_false (fun ⟨_, h⟩ => nomatch h) fun ⟨⟨_, h⟩, _⟩ => nomatch h
    | ok s => cases wrapErr name <;> exact registerSteps_isOk_iff.trans (and_iff_right ⟨s, rfl⟩).symm

/-! ## `initSteps` -/

/-- `initSteps` succeeds exactly when every step plugin loads and every name of `cfg.Steps`
    builds: a built-in name with the capabilities it needs, any other name with a step
    plugin of that id. Nothing else about the ids of the step plugins is checked. -/
theorem initSteps_ok_iff {h : StdHandler} {mgr : PluginManager} {cfg : Config}
    {wrapErr : String → Option GoError} :
    (∃ h', initSteps h mgr cfg wrapErr = .ok h') ↔
      (∀ c ∈ cfg.plugins.steps, ∃ s, mgr.step c = .ok s) ∧
      ∀ name ∈ cfg.steps, if name ∈ builtinStepNames
        then ∃ b, buildStep h (fun _ => none) name = .ok b
        else ∃ c ∈ cfg.plugins.steps, c.id = name := by
  have builds : ∀ {loaded}, List.Forall₂ (Loaded mgr) cfg.plugins.steps loaded → ∀ name,
      (∃ b, buildStep h (fun k => (lastWithId loaded k).or none) name = .ok b) ↔
        if name ∈ builtinStepNames then ∃ b, buildStep h (fun _ => none) name = .ok b
        else ∃ c ∈ cfg.plugins.steps, c.id = name := by
    intro loaded hl name
    split_ifs with hn
    · rw [buildStep_builtin h hn _ fun _ => none]
    · simp only [buildStep_custom h hn, Option.or_none, ← lastWithId_isSome_iff hl]
      cases lastWithId loaded name <;> simp
  constructor
  · rintro ⟨h', hinit⟩
    obtain ⟨custom, hc, hrest⟩ := bind_eq_ok hinit
    obtain ⟨steps, hr, -⟩ := bind_eq_ok hrest
    have hload := loadStepPlugins_isOk_iff.mp ⟨_, hc⟩
    obtain ⟨loaded, hl, rfl⟩ := loadStepPlugins_eq_ok_iff.mp hc
    exact ⟨hload, fun name hn => (builds hl name).mp (registerSteps_isOk_iff.mp ⟨steps, hr⟩ name hn)⟩
  · rintro ⟨hload, hnames⟩
    obtain ⟨custom, hc⟩ := (@loadStepPlugins_isOk_iff mgr _ fun _ => none).mpr hload
    obtain ⟨loaded, hl, rfl⟩ := loadStepPlugins_eq_ok_iff.mp hc
    obtain ⟨steps, hr⟩ := (@registerSteps_isOk_iff h _ wrapErr cfg.steps h.steps).mpr
      fun name hn => (builds hl name).mpr (hnames name hn)
    exact ⟨{ h with steps }, by simp only [initSteps, hc, bind, Except.bind, hr]; rfl⟩

/-- What `initSteps` builds, when it succeeds: one step per name of `cfg.Steps`, in order,
    raw or in the decorator; a built-in name gets its built-in step even when a step
    plugin has that id, and any other name the step loaded last under that id. -/
theorem initSteps_resolves {h h' : StdHandler} {mgr : PluginManager} {cfg : Config}
    {wrapErr : String → Option GoError} (hinit : initSteps h mgr cfg wrapErr = .ok h') :
    ∃ loaded built, List.Forall₂ (Loaded mgr) cfg.plugins.steps loaded ∧
      h' = { h with steps := h.steps ++ built } ∧
      List.Forall₂ (fun name s => ∃ b,
        (if name ∈ builtinStepNames then buildStep h (fun _ => none) name = .ok b
          else lastWithId loaded name = some b) ∧
        (s = b ∨ s = .instrumented name h.moduleName b)) cfg.steps built := by
  obtain ⟨custom, hc, hrest⟩ := bind_eq_ok hinit
  obtain ⟨steps, hr, hpure⟩ := bind_eq_ok hrest
  obtain ⟨loaded, hl, rfl⟩ := loadStepPlugins_eq_ok_iff.mp hc
  obtain ⟨built, rfl, hall⟩ := registerSteps_ok hr
  refine ⟨loaded, built, hl, (Except.ok.inj hpure).symm,
    hall.imp fun name s ⟨b, hb, hs⟩ => ⟨b, ?_, hs⟩⟩
  split_ifs with hn
  · rwa [buildStep_builtin h hn _ fun _ => none] at hb
  · simp only [buildStep_custom h hn, Option.or_none] at hb
    cases hk : lastWithId loaded name with
    | none => rw [hk] at hb; cases hb
    | some s' => rw [hk] at hb; cases hb; rfl

/-- The half of the building rule that holds when the step plugins have distinct ids: a
    built-in name gets its built-in step, any other name the step of the one plugin with
    that id. -/
theorem initSteps_resolves_unique {h h' : StdHandler} {mgr : PluginManager} {cfg : Config}
    {wrapErr : String → Option GoError} (hinit : initSteps h mgr cfg wrapErr = .ok h')
    (hnodup : (cfg.plugins.steps.map (·.id)).Nodup) :
    ∃ built, h' = { h with steps := h.steps ++ built } ∧
      List.Forall₂ (fun name s => ∃ b,
        (if name ∈ builtinStepNames then buildStep h (fun _ => none) name = .ok b
          else (∃ c ∈ cfg.plugins.steps, c.id = name) ∧
            ∀ c ∈ cfg.plugins.steps, c.id = name → mgr.step c = .ok b) ∧
        (s = b ∨ s = .instrumented name h.moduleName b)) cfg.steps built := by
  obtain ⟨loaded, built, hl, rfl, hall⟩ := initSteps_resolves hinit
  refine ⟨built, rfl, hall.imp fun name s ⟨b, hb, hs⟩ => ⟨b, ?_, hs⟩⟩
  split_ifs with hn
  · rwa [if_pos hn] at hb
  · rw [if_neg hn] at hb
    obtain ⟨c, hc, hid, -⟩ := lastWithId_loaded hl hb
    exact ⟨⟨c, hc, hid⟩, lastWithId_unique hl hnodup hb⟩

/-- What `initSteps` makes of the names of `cfg.Steps` and the step plugins. It fails
    exactly when a step plugin fails to load or a name does not build, and compares no ids.
    When it succeeds, a built-in name gets its built-in step even when a step plugin has that
    id, and any other name the step loaded last among the step plugins with that id; with
    distinct ids, that is the step of the one plugin with the id. -/
theorem initSteps_builtins_first {h : StdHandler} {mgr : PluginManager} {cfg : Config}
    {wrapErr : String → Option GoError} :
    ((∃ h', initSteps h mgr cfg wrapErr = .ok h') ↔
      (∀ c ∈ cfg.plugins.steps, ∃ s, mgr.step c = .ok s) ∧
      ∀ name ∈ cfg.steps, if name ∈ builtinStepNames
        then ∃ b, buildStep h (fun _ => none) name = .ok b
        else ∃ c ∈ cfg.plugins.steps, c.id = name) ∧
    ∀ h', initSteps h mgr cfg wrapErr = .ok h' →
      (∃ loaded built, List.Forall₂ (Loaded mgr) cfg.plugins.steps loaded ∧
        h' = { h with steps := h.steps ++ built } ∧
        List.Forall₂ (fun name s => ∃ b,
          (if name ∈ builtinStepNames then buildStep h (fun _ => none) name = .ok b
            else lastWithId loaded name = some b) ∧
          (s = b ∨ s = .instrumented name h.moduleName b)) cfg.steps built) ∧
      ((cfg.plugins.steps.map (·.id)).Nodup →
        ∃ built, h' = { h with steps := h.steps ++ built } ∧
          List.Forall₂ (fun name s => ∃ b,
            (if name ∈ builtinStepNames then buildStep h (fun _ => none) name = .ok b
              else (∃ c ∈ cfg.plugins.steps, c.id = name) ∧
                ∀ c ∈ cfg.plugins.steps, c.id = name → mgr.step c = .ok b) ∧
            (s = b ∨ s = .instrumented name h.moduleName b)) cfg.steps built) :=
  ⟨initSteps_ok_iff, fun _ hinit => ⟨initSteps_resolves hinit, initSteps_resolves_unique hinit⟩⟩

/-! ## A step plugin with a built-in id, and two with one id -/

/-- A step plugin's `Run` that sets each pair of its config as a response header. -/
def stampRun (config : List (String × String)) (ctx : StepContext) (clk : Clock) :
    StepContext × Option GoError × Clock :=
  ({ ctx with respHeader := config.foldl (fun hd kv => hd.set kv.1 kv.2) ctx.respHeader }, none, clk)

/-- A plugin manager whose step plugins all load, each as `stampRun` of its config. -/
def stampMgr : PluginManager :=
  { emptyMgr with step := fun c => .ok (.plugin c.id (stampRun c.config)) }

/-- A signer that always answers. -/
def sampleSigner : Signer := ⟨fun _ _ _ _ => .ok "sig"⟩

/-- A key manager that always answers. -/
def sampleKm : KeyManager := ⟨fun _ => .ok ⟨"k1", "priv"⟩, fun _ _ => .ok ("", "")⟩

/-- A BAP caller handler whose plugins include a signer and a key manager. -/
def signingHandler : StdHandler :=
  { signer := some sampleSigner, km := some sampleKm, subscriberID := "bap.example.com",
    role := .bap, moduleName := "bapTxnCaller" }

/-- Step plugins `sign` (a built-in name) and `audit` twice, and the steps `sign, audit`. -/
def collidingStepsCfg : Config :=
  { subscriberID := "bap.example.com", role := .bap,
    plugins := { steps := [⟨"sign", [("level", "0")]⟩, ⟨"audit", [("level", "1")]⟩,
      ⟨"audit", [("level", "2")]⟩] },
    steps := ["sign", "audit"] }

/-- `initSteps` accepts a step plugin whose id is the built-in name `sign` and two step
    plugins with the id `audit`: `sign` builds the built-in signing step, the custom
    `sign` plugin is loaded and never used, and `audit` is the second `audit` plugin. -/
theorem initSteps_accepts_colliding_ids :
    initSteps signingHandler stampMgr collidingStepsCfg (fun _ => none) =
      .ok { signingHandler with steps :=
        [.instrumented "sign" "bapTxnCaller" (.sign sampleSigner sampleKm),
          .instrumented "audit" "bapTxnCaller" (.plugin "audit" (stampRun [("level", "2")]))] } :=
  rfl

end BecknOnix.Handler
