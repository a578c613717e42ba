/-
  BecknOnix.SchemaValidator.CompileCacheSafety

  Safety of the double-checked compile cache over every interleaving.

  `Inv` ties the locks to the program points holding them, and the cache and the ghost
  log to what the goroutines saw. `Inv.step` shows every step keeps it, so it holds of
  every reachable state (`Reachable.inv`); the safety facts follow: one compile at a
  time, no compile of a key after one succeeded, every return of a key the value
  cached for it, and a failed compile leaves the cache alone. The `cacheMu` discipline
  also keeps the Go map `schemaCache` free of a concurrent read and write
  (`schemaCache_no_race`).
-/
import BecknOnix.SchemaValidator.CompileCache

namespace BecknOnix.SchemaValidator

variable {G : Type} [DecidableEq G]

/-! ## Moving one goroutine -/

section SetPc

variable (st : State G) (t : G) (p : PC)

@[simp] theorem setPc_pc_self : (st.setPc t p).pc t = p := by simp [State.setPc]
@[simp] theorem setPc_key : (st.setPc t p).key = st.key := rfl
@[simp] theorem setPc_readers : (st.setPc t p).readers = st.readers := rfl
@[simp] theorem setPc_writer : (st.setPc t p).writer = st.writer := rfl
@[simp] theorem setPc_compileMu : (st.setPc t p).compileMu = st.compileMu := rfl
@[simp] theorem setPc_cache : (st.setPc t p).cache = st.cache := rfl
@[simp] theorem setPc_log : (st.setPc t p).log = st.log := rfl

theorem setPc_pc_ne {u : G} (hu : u ≠ t) : (st.setPc t p).pc u = st.pc u := by
  simp [State.setPc, hu]

end SetPc

/-! ## The invariant -/

/-- What every reachable state satisfies. -/
structure Inv (st : State G) : Prop where
  /-- The readers of `cacheMu` are the goroutines at a look. -/
  readers_reading : ∀ u, u ∈ st.readers ↔ (st.pc u).reading
  /-- The writer of `cacheMu` is the goroutine storing. -/
  writer_store : ∀ u, st.writer = some u ↔ (st.pc u).storing
  /-- The owner of `compileMu` is the goroutine between its `Lock` and `Unlock`. -/
  compileMu_holds : ∀ u, st.compileMu = some u ↔ (st.pc u).holdsCompileMu
  /-- A writer holds `cacheMu` alone. -/
  writer_alone : st.writer ≠ none → st.readers = ∅
  /-- From the miss of the second look to the store, the key is not cached. -/
  missed_uncached : ∀ u, (st.pc u).missed → st.cache (st.key u) = none
  /-- A goroutine returning what it compiled has stored it. -/
  release_cached : ∀ u s, st.pc u = .release s → st.cache (st.key u) = some s
  /-- Every value returned for a key is the one cached for it. -/
  returned_cached : ∀ k s, Event.returned k s ∈ st.log → st.cache k = some s
  /-- A compiled schema is cached, or about to be by the goroutine that compiled it. -/
  compiled_cached : ∀ k s, Event.compiled k s ∈ st.log →
    st.cache k = some s ∨ ∃ u, st.key u = k ∧ (st.pc u = .lockCache s ∨ st.pc u = .store s)
  /-- A goroutine holding a compiled schema got it from a compile of its key. -/
  pending_compiled : ∀ u s, (st.pc u = .lockCache s ∨ st.pc u = .store s) →
    Event.compiled (st.key u) s ∈ st.log
  /-- No compile of a key starts after one of it succeeded. -/
  no_recompile : st.log.Pairwise fun a b => ∀ k s, a = .compiled k s → b ≠ .compileStart k

omit [DecidableEq G] in
theorem inv_init : Inv (State.init : State G) where
  readers_reading _ := by simp [State.init, PC.reading]
  writer_store _ := by simp [State.init, PC.storing]
  compileMu_holds _ := by simp [State.init, PC.holdsCompileMu]
  writer_alone h := absurd rfl h
  missed_uncached _ := by simp [State.init, PC.missed]
  release_cached _ _ h := by simp [State.init] at h
  returned_cached _ _ h := by simp [State.init] at h
  compiled_cached _ _ h := by simp [State.init] at h
  pending_compiled _ _ h := by simp [State.init] at h
  no_recompile := .nil

/-! ## Moving one goroutine, seen by every goroutine -/

variable {files : SchemaFiles} {st st' : State G}

section Frame

variable {R R' : G → Prop} {P : PC → Bool} {t : G} {p : PC}

/-- A fact about each goroutine and its program point holds after `t` moves to `p` when
    it holds of the others where they are and of `t` at `p`. -/
theorem forall_setPc {Q : G → PC → Prop} (hQ : ∀ u, u ≠ t → Q u (st.pc u)) (ht : Q t p) :
    ∀ u, Q u ((st.setPc t p).pc u) := by
  intro u
  by_cases h : u = t
  · subst h
    rwa [setPc_pc_self]
  · rw [setPc_pc_ne st t p h]
    exact hQ u h

/-- ... and when `t` also takes the key `k`, as a call does. -/
theorem forall_setPc_key {Q : String → PC → Prop} {k : String}
    (hQ : ∀ u, Q (st.key u) (st.pc u)) (ht : Q k p) :
    ∀ u, Q (Function.update st.key t k u) ((st.setPc t p).pc u) :=
  forall_setPc (Q := fun u q => Q (Function.update st.key t k u) q)
    (fun u hu => by simpa only [Function.update_noteq hu] using hQ u)
    (by simpa only [Function.update_same] using ht)

/-- A per-goroutine fact that follows a program-point predicate still does after `t`
    moves to `p`, when it holds of `t` exactly at `p` and is unchanged for the others. -/
theorem tracks (hR : ∀ u, R u ↔ P (st.pc u)) (ht : R' t ↔ P p)
    (hu : ∀ u, u ≠ t → (R' u ↔ R u)) : ∀ u, R' u ↔ P ((st.setPc t p).pc u) :=
  forall_setPc (Q := fun u q => R' u ↔ P q) (fun u h => (hu u h).trans (hR u)) ht

/-- ... so when the fact is unchanged and the mover keeps its standing, -/
theorem tracks_same (hR : ∀ u, R u ↔ P (st.pc u)) (hp : P p = P (st.pc t)) :
    ∀ u, R u ↔ P ((st.setPc t p).pc u) :=
  tracks hR ((hR t).trans (by rw [hp])) fun _ _ => Iff.rfl

/-- ... when the mover takes a free lock, -/
theorem tracks_acquire {o : Option G} (hR : ∀ u, o = some u ↔ P (st.pc u)) (ho : o = none)
    (hp : P p = true) : ∀ u, some t = some u ↔ P ((st.setPc t p).pc u) :=
  tracks hR (by simp [hp]) fun u hu => by simp [ho, Ne.symm hu]

/-- ... when the mover, its holder, releases it, -/
theorem tracks_release {o : Option G} (hR : ∀ u, o = some u ↔ P (st.pc u)) (ho : o = some t)
    (hp : P p = false) : ∀ u, none = some u ↔ P ((st.setPc t p).pc u) :=
  tracks hR (by simp [hp]) fun u hu => by simp [ho, Ne.symm hu]

/-- ... when the mover joins the readers, -/
theorem tracks_enter {rs : Finset G} (hR : ∀ u, u ∈ rs ↔ P (st.pc u)) (hp : P p = true) :
    ∀ u, u ∈ insert t rs ↔ P ((st.setPc t p).pc u) :=
  tracks hR (by simp [hp]) fun u hu => by simp [hu]

/-- ... and when it leaves them. -/
theorem tracks_leave {rs : Finset G} (hR : ∀ u, u ∈ rs ↔ P (st.pc u)) (hp : P p = false) :
    ∀ u, u ∈ rs.erase t ↔ P ((st.setPc t p).pc u) :=
  tracks hR (by simp [hp]) fun u hu => by simp [hu]

end Frame

/-! ## Locks follow the program points -/

theorem PC.holdsCompileMu_of_missed {p : PC} (h : p.missed) : p.holdsCompileMu := by
  cases p <;> simp_all [PC.missed, PC.holdsCompileMu]

omit [DecidableEq G] in
/-- One goroutine at a time holds `compileMu`. -/
theorem Inv.holder_unique (hi : Inv st) {t u : G} (ht : (st.pc t).holdsCompileMu)
    (hu : (st.pc u).holdsCompileMu) : t = u :=
  Option.some.inj (((hi.compileMu_holds t).2 ht).symm.trans ((hi.compileMu_holds u).2 hu))

theorem Inv.readers_step (hi : Inv st) (h : Step files st st') :
    ∀ u, u ∈ st'.readers ↔ (st'.pc u).reading := by
  have hr := hi.readers_reading
  cases h with
  | rlock1 | rlock2 => exact tracks_enter hr rfl
  | hit1 | notFound | miss1 | hit2 | miss2 => exact tracks_leave hr rfl
  | _ => exact tracks_same hr (by simp only [*, PC.reading])

theorem Inv.writer_step (hi : Inv st) (h : Step files st st') :
    ∀ u, st'.writer = some u ↔ (st'.pc u).storing := by
  have hw := hi.writer_store
  cases h with
  | lockCache t s h₀ hfree _ => exact tracks_acquire hw hfree rfl
  | store t s h₀ => exact tracks_release hw ((hw t).2 (by simp [h₀, PC.storing])) rfl
  | _ => exact tracks_same hw (by simp only [*, PC.storing])

theorem Inv.compileMu_step (hi : Inv st) (h : Step files st st') :
    ∀ u, st'.compileMu = some u ↔ (st'.pc u).holdsCompileMu := by
  have hm := hi.compileMu_holds
  have held : ∀ {t} (p : PC), st.pc t = p → p.holdsCompileMu → st.compileMu = some t :=
    fun p h₀ hp => (hm _).2 (h₀ ▸ hp)
  cases h with
  | lockCompile t h₀ hfree => exact tracks_acquire hm hfree rfl
  | hit2 t _ h₀ _ | compileErr t h₀ | release t _ h₀ => exact tracks_release hm (held _ h₀ rfl) rfl
  | _ => exact tracks_same hm (by simp only [*, PC.holdsCompileMu])

theorem Inv.writer_alone_step (hi : Inv st) (h : Step files st st') :
    st'.writer ≠ none → st'.readers = ∅ := by
  have hwa := hi.writer_alone
  cases h with
  | lockCache t s h₀ _ hr => exact fun _ => hr
  | rlock1 t h₀ hw | rlock2 t h₀ hw => exact fun h => absurd hw h
  | store => exact fun h => absurd rfl h
  | hit1 | notFound | miss1 | hit2 | miss2 => exact fun hw => by simp [hwa hw]
  | _ => exact hwa

/-! ## The cache and the log follow what the goroutines saw -/

/-- The cache only grows: a cached key keeps its schema. -/
theorem Inv.cache_step (hi : Inv st) (h : Step files st st') {k : String} {s : Schema}
    (hk : st.cache k = some s) : st'.cache k = some s := by
  cases h with
  | store t s' h₀ =>
    have hnone := hi.missed_uncached t (by simp [h₀, PC.missed])
    have hne : k ≠ st.key t := fun he => by rw [he, hnone] at hk; cases hk
    simp [Function.update_noteq hne, hk]
  | _ => exact hk

theorem Inv.missed_step (hi : Inv st) (h : Step files st st') :
    ∀ u, (st'.pc u).missed → st'.cache (st'.key u) = none := by
  have frame : ∀ {t p}, (p.missed → st.cache (st.key t) = none) →
      ∀ u, ((st.setPc t p).pc u).missed → st.cache (st.key u) = none :=
    forall_setPc (Q := fun u q => q.missed → st.cache (st.key u) = none)
      fun u _ => hi.missed_uncached u
  cases h with
  | call t key h₀ =>
    exact forall_setPc_key (Q := fun k q => q.missed → st.cache k = none) hi.missed_uncached
      (by simp [PC.missed])
  | miss2 t h₀ hc => exact frame fun _ => hc
  | compileOk t s h₀ | lockCache t s h₀ _ _ =>
    exact frame fun _ => hi.missed_uncached t (by simp [h₀, PC.missed])
  | store t s h₀ =>
    intro u hu
    by_cases hut : u = t
    · subst hut
      simp [PC.missed] at hu
    · rw [setPc_pc_ne _ _ _ hut] at hu
      exact absurd (hi.holder_unique (by simp [h₀, PC.holdsCompileMu])
        (PC.holdsCompileMu_of_missed hu)) (Ne.symm hut)
  | _ => exact frame (by simp [PC.missed])

theorem Inv.release_step (hi : Inv st) (h : Step files st st') :
    ∀ u s, st'.pc u = .release s → st'.cache (st'.key u) = some s := by
  cases h with
  | call t key h₀ =>
    exact forall_setPc_key (Q := fun k q => ∀ s, q = .release s → st.cache k = some s)
      hi.release_cached nofun
  | store t s' h₀ =>
    intro u s hu
    by_cases hut : u = t
    · subst hut
      simp only [State.setPc, Function.update_same, PC.release.injEq] at hu
      simp [hu]
    · rw [setPc_pc_ne _ _ _ hut] at hu
      exact absurd (hi.holder_unique (by simp [h₀, PC.holdsCompileMu])
        (by simp [hu, PC.holdsCompileMu])) (Ne.symm hut)
  | _ =>
    exact forall_setPc (Q := fun u q => ∀ s, q = .release s → st.cache (st.key u) = some s)
      (fun u _ => hi.release_cached u) nofun

/-- Logging the return of a cached schema keeps every logged return cached. -/
theorem returned_cached_append {log : List Event} {c : String → Option Schema} {k₀ : String}
    {s₀ : Schema} (old : ∀ k s, Event.returned k s ∈ log → c k = some s) (hnew : c k₀ = some s₀) :
    ∀ k s, Event.returned k s ∈ log ++ [.returned k₀ s₀] → c k = some s := by
  intro k s hk
  rcases List.mem_append.mp hk with hk | hk
  · exact old k s hk
  · simp only [List.mem_singleton, Event.returned.injEq] at hk
    obtain ⟨rfl, rfl⟩ := hk
    exact hnew

theorem Inv.returned_step (hi : Inv st) (h : Step files st st') :
    ∀ k s, Event.returned k s ∈ st'.log → st'.cache k = some s := by
  have old : ∀ k s, Event.returned k s ∈ st.log → st'.cache k = some s :=
    fun k s hmem => hi.cache_step h (hi.returned_cached k s hmem)
  cases h with
  | hit1 t s h₀ hc | hit2 t s h₀ hc => exact returned_cached_append old hc
  | release t s h₀ => exact returned_cached_append old (hi.release_cached t s h₀)
  | notFound | miss2 | compileOk | compileErr =>
    exact fun k s hk => old k s ((List.mem_append.mp hk).resolve_right (by simp))
  | _ => exact old

/-- A goroutine holding a compiled schema still does after another goroutine moves. -/
theorem pending_setPc_ne {u t : G} {p : PC} {s : Schema} (hut : u ≠ t)
    (hpu : st.pc u = .lockCache s ∨ st.pc u = .store s) :
    (st.setPc t p).pc u = .lockCache s ∨ (st.setPc t p).pc u = .store s := by
  rwa [setPc_pc_ne st t p hut]

theorem Inv.compiled_step (hi : Inv st) (h : Step files st st') :
    ∀ k s, Event.compiled k s ∈ st'.log →
      st'.cache k = some s ∨ ∃ u, st'.key u = k ∧ (st'.pc u = .lockCache s ∨ st'.pc u = .store s) := by
  intro k s hk
  have mono : st.cache k = some s → st'.cache k = some s := hi.cache_step h
  cases h with
  | compileOk t s' h₀ =>
    rcases List.mem_append.mp hk with hk | hk
    · rcases hi.compiled_cached k s hk with hc | ⟨u, hku, hpu⟩
      · exact .inl hc
      · have hut : u ≠ t := by rintro rfl; rcases hpu with hpu | hpu <;> rw [h₀] at hpu <;> cases hpu
        exact .inr ⟨u, hku, pending_setPc_ne hut hpu⟩
    · simp only [List.mem_singleton, Event.compiled.injEq] at hk
      obtain ⟨rfl, rfl⟩ := hk
      exact .inr ⟨t, rfl, .inl (setPc_pc_self _ _ _)⟩
  | lockCache t s' h₀ _ _ =>
    rcases hi.compiled_cached k s hk with hc | ⟨u, hku, hpu⟩
    · exact .inl hc
    · by_cases hut : u = t
      · subst hut
        rcases hpu with hpu | hpu <;> rw [h₀] at hpu <;> cases hpu
        exact .inr ⟨u, hku, .inr (setPc_pc_self _ _ _)⟩
      · exact .inr ⟨u, hku, pending_setPc_ne hut hpu⟩
  | store t s' h₀ =>
    rcases hi.compiled_cached k s hk with hc | ⟨u, hku, hpu⟩
    · exact .inl (mono hc)
    · by_cases hut : u = t
      · subst hut hku
        rcases hpu with hpu | hpu <;> rw [h₀] at hpu <;> cases hpu
        exact .inl (Function.update_same _ _ _)
      · exact .inr ⟨u, hku, pending_setPc_ne hut hpu⟩
  | call t key h₀ =>
    rcases hi.compiled_cached k s hk with hc | ⟨u, rfl, hpu⟩
    · exact .inl hc
    · have hut : u ≠ t := by rintro rfl; rcases hpu with hpu | hpu <;> rw [h₀] at hpu <;> cases hpu
      exact .inr ⟨u, Function.update_noteq hut _ _, pending_setPc_ne hut hpu⟩
  | rlock1 t h₀ _ | hit1 t _ h₀ _ | notFound t h₀ _ _ | miss1 t h₀ _ _ | lockCompile t h₀ _
  | rlock2 t h₀ _ | hit2 t _ h₀ _ | miss2 t h₀ _ | compileErr t h₀ | release t _ h₀ =>
    have hk : Event.compiled k s ∈ st.log := by
      simpa only [List.mem_append, List.mem_singleton, reduceCtorEq, or_false] using hk
    rcases hi.compiled_cached k s hk with hc | ⟨u, hku, hpu⟩
    · exact .inl hc
    · have hut : u ≠ t := by rintro rfl; rcases hpu with hpu | hpu <;> rw [h₀] at hpu <;> cases hpu
      exact .inr ⟨u, hku, pending_setPc_ne hut hpu⟩

/-- The ghost log only grows. -/
theorem Step.log_mono (h : Step files st st') : ∀ e ∈ st.log, e ∈ st'.log := by
  cases h with
  | call | rlock1 | miss1 | lockCompile | rlock2 | lockCache | store => exact fun _ he => he
  | _ => exact fun _ he => List.mem_append_left _ he

theorem Inv.pending_step (hi : Inv st) (h : Step files st st') :
    ∀ u s, (st'.pc u = .lockCache s ∨ st'.pc u = .store s) →
      Event.compiled (st'.key u) s ∈ st'.log := by
  have frame : ∀ {t p}, (∀ s, (p = .lockCache s ∨ p = .store s) → Event.compiled (st.key t) s ∈ st'.log) →
      ∀ u s, ((st.setPc t p).pc u = .lockCache s ∨ (st.setPc t p).pc u = .store s) →
        Event.compiled (st.key u) s ∈ st'.log :=
    forall_setPc (Q := fun u q => ∀ s, (q = .lockCache s ∨ q = .store s) →
      Event.compiled (st.key u) s ∈ st'.log) fun u _ s hu => h.log_mono _ (hi.pending_compiled u s hu)
  cases h with
  | call t key h₀ =>
    exact forall_setPc_key (Q := fun k q => ∀ s, (q = .lockCache s ∨ q = .store s) →
      Event.compiled k s ∈ st.log) hi.pending_compiled fun _ hs => by rcases hs with hs | hs <;> cases hs
  | compileOk t s' h₀ =>
    refine frame fun s hs => ?_
    rcases hs with hs | hs <;> cases hs
    exact List.mem_append_right _ (List.mem_singleton_self _)
  | lockCache t s' h₀ _ _ =>
    refine frame fun s hs => ?_
    rcases hs with hs | hs <;> cases hs
    exact hi.pending_compiled t _ (.inl h₀)
  | _ => exact frame fun _ hs => by rcases hs with hs | hs <;> cases hs

theorem Inv.no_recompile_step (hi : Inv st) (h : Step files st st') :
    st'.log.Pairwise fun a b => ∀ k s, a = .compiled k s → b ≠ .compileStart k := by
  have hno := hi.no_recompile
  cases h with
  | miss2 t h₀ hc =>
    refine List.pairwise_append.2 ⟨hno, List.pairwise_singleton _ _, fun a ha b hb k s hak hkey => ?_⟩
    simp only [List.mem_singleton] at hb
    subst hb hak
    simp only [Event.compileStart.injEq] at hkey
    subst hkey
    rcases hi.compiled_cached _ s ha with hc' | ⟨u, hku, hpu⟩
    · rw [hc] at hc'
      cases hc'
    · have hut : t = u := hi.holder_unique (by simp [h₀, PC.holdsCompileMu])
        (by rcases hpu with hpu | hpu <;> simp [hpu, PC.holdsCompileMu])
      subst hut
      rcases hpu with hpu | hpu <;> rw [h₀] at hpu <;> cases hpu
  | _ =>
    first
      | exact hno
      | exact List.pairwise_append.2 ⟨hno, List.pairwise_singleton _ _, fun a _ b hb k s _ => by
          simp only [List.mem_singleton] at hb
          subst hb
          simp⟩

/-! ## Every reachable state -/

/-- Every step keeps the invariant. -/
theorem Inv.step (hi : Inv st) (h : Step files st st') : Inv st' where
  readers_reading := hi.readers_step h
  writer_store := hi.writer_step h
  compileMu_holds := hi.compileMu_step h
  writer_alone := hi.writer_alone_step h
  missed_uncached := hi.missed_step h
  release_cached := hi.release_step h
  returned_cached := hi.returned_step h
  compiled_cached := hi.compiled_step h
  pending_compiled := hi.pending_step h
  no_recompile := hi.no_recompile_step h

theorem Reachable.inv (h : Reachable files st) : Inv st := by
  induction h with
  | init => exact inv_init
  | step _ hs ih => exact ih.step hs

/-- Only a goroutine whose compile failed goes from compiling back to idle, and that
    step leaves the cache as it was. -/
theorem compile_failure_cache (h : Step files st st') {t : G} (ht : st.pc t = .compiling)
    (ht' : st'.pc t = .idle) : st'.cache = st.cache := by
  cases h with
  | store u s h₀ =>
    have hut : t ≠ u := by rintro rfl; rw [ht] at h₀; cases h₀
    rw [setPc_pc_ne _ _ _ hut, ht] at ht'
    cases ht'
  | _ => rfl

/-- The double-checked compile cache over every interleaving of any number of
    goroutines: `Compile` runs in one goroutine at a time; no compile of a key starts
    after one of it succeeded; every call that returns a schema for a key returns the
    one compiled for it, so all of them return the same; a cached schema stays cached;
    and a goroutine whose compile failed leaves the cache unchanged. -/
theorem getCompiledSchema_safe {files : SchemaFiles} {st : State G} (hr : Reachable files st) :
    (∀ t u, st.pc t = .compiling → st.pc u = .compiling → t = u) ∧
    (st.log.Pairwise fun a b => ∀ k s, a = .compiled k s → b ≠ .compileStart k) ∧
    (∀ k s s', Event.compiled k s ∈ st.log → Event.returned k s' ∈ st.log → s' = s) ∧
    (∀ k s s', Event.returned k s ∈ st.log → Event.returned k s' ∈ st.log → s = s') ∧
    ∀ st', Step files st st' →
      (∀ k s, st.cache k = some s → st'.cache k = some s) ∧
      (∀ t, st.pc t = .compiling → st'.pc t = .idle → st'.cache = st.cache) := by
  have hi := hr.inv
  refine ⟨fun t u ht hu => hi.holder_unique (by simp [ht, PC.holdsCompileMu])
      (by simp [hu, PC.holdsCompileMu]), hi.no_recompile, fun k s s' hc hret => ?_,
    fun k s s' h₁ h₂ => Option.some.inj ((hi.returned_cached k s h₁).symm.trans
      (hi.returned_cached k s' h₂)),
    fun st' h => ⟨fun _ _ => hi.cache_step h, fun _ ht ht' => compile_failure_cache h ht ht'⟩⟩
  have hs' := hi.returned_cached k s' hret
  rcases hi.compiled_cached k s hc with hs | ⟨u, rfl, hpu⟩
  · exact Option.some.inj (hs'.symm.trans hs)
  · have hnone := hi.missed_uncached u (by rcases hpu with hpu | hpu <;> simp [hpu, PC.missed])
    rw [hnone] at hs'
    cases hs'

/-- A schema directory where every key is filed. -/
def everyKeyFiled : SchemaFiles := fun _ => some ["ondc_trv10", "v2.0.0", "search.json"]

/-- The safety facts on a run where goroutine `true` misses, compiles and stores a
    schema, and goroutine `false` then finds it cached. -/
theorem getCompiledSchema_safe_run :
    ∃ st : State Bool, Reachable everyKeyFiled st ∧
      st.log = [.compileStart "k", .compiled "k" 7, .returned "k" 7, .returned "k" 7] ∧
      ((∀ t u, st.pc t = .compiling → st.pc u = .compiling → t = u) ∧
      (st.log.Pairwise fun a b => ∀ k s, a = .compiled k s → b ≠ .compileStart k) ∧
      (∀ k s s', Event.compiled k s ∈ st.log → Event.returned k s' ∈ st.log → s' = s) ∧
      (∀ k s s', Event.returned k s ∈ st.log → Event.returned k s' ∈ st.log → s = s') ∧
      ∀ st', Step everyKeyFiled st st' →
        (∀ k s, st.cache k = some s → st'.cache k = some s) ∧
        (∀ t, st.pc t = .compiling → st'.pc t = .idle → st'.cache = st.cache)) := by
  have r := (@Reachable.init Bool _ everyKeyFiled).step (Step.call true "k" rfl)
  replace r := r.step (Step.rlock1 true rfl rfl)
  replace r := r.step (Step.miss1 true rfl rfl rfl)
  replace r := r.step (Step.lockCompile true rfl rfl)
  replace r := r.step (Step.rlock2 true rfl rfl)
  replace r := r.step (Step.miss2 true rfl rfl)
  replace r := r.step (Step.compileOk true 7 rfl)
  replace r := r.step (Step.lockCache true 7 rfl rfl (by decide))
  replace r := r.step (Step.store true 7 rfl)
  replace r := r.step (Step.release true 7 rfl)
  replace r := r.step (Step.call false "k" rfl)
  replace r := r.step (Step.rlock1 false rfl rfl)
  replace r := r.step (Step.hit1 false 7 rfl rfl)
  exact ⟨_, r, rfl, getCompiledSchema_safe r⟩

/-- `schemaCache` is never read while it is written: in every reachable state, a goroutine
    storing into it is the only one storing, and no goroutine is at a look. -/
theorem schemaCache_no_race {files : SchemaFiles} {st : State G} (hr : Reachable files st)
    {t u : G} (ht : (st.pc t).storing) : ¬ (st.pc u).reading ∧ ((st.pc u).storing → u = t) := by
  have hi := hr.inv
  have hw := (hi.writer_store t).2 ht
  refine ⟨fun hu => ?_, fun hu => Option.some.inj (((hi.writer_store u).2 hu).symm.trans hw)⟩
  have hmem := (hi.readers_reading u).2 hu
  rw [hi.writer_alone (by rw [hw]; nofun)] at hmem
  exact Finset.not_mem_empty u hmem

/-- Goroutine `true` storing the schema it compiled while goroutine `false` waits for the
    read lock. -/
theorem schemaCache_no_race_store :
    ∃ st : State Bool, Reachable everyKeyFiled st ∧ (st.pc true).storing ∧
      st.pc false = .rlock1 ∧ ¬ (st.pc false).reading ∧ ((st.pc false).storing → false = true) := by
  have r := (@Reachable.init Bool _ everyKeyFiled).step (Step.call true "k" rfl)
  replace r := r.step (Step.rlock1 true rfl rfl)
  replace r := r.step (Step.miss1 true rfl rfl rfl)
  replace r := r.step (Step.lockCompile true rfl rfl)
  replace r := r.step (Step.rlock2 true rfl rfl)
  replace r := r.step (Step.miss2 true rfl rfl)
  replace r := r.step (Step.compileOk true 7 rfl)
  replace r := r.step (Step.lockCache true 7 rfl rfl (by decide))
  replace r := r.step (Step.call false "k" rfl)
  exact ⟨_, r, rfl, rfl, schemaCache_no_race r rfl⟩

end BecknOnix.SchemaValidator
