/-
  BecknOnix.SchemaValidator.CompileCacheProgress

  `getCompiledSchema` cannot deadlock, and once no new call starts, every call in flight
  returns.

  Every action moves its goroutine forward through `getCompiledSchema` (`Step.advance`):
  the actions a goroutine has left (`PC.left`, on the longest path: a miss, a compile, a
  store) fall with each of its actions but the call, so over a set of goroutines that
  holds every call in flight (`Covers`, `workLeft`) they bound every run that starts no
  call (`SettleRun.bound`). In every reachable state some goroutine inside a call can
  take an action (`Inv.progress`): one at a look, compiling, storing or returning always
  can; one waiting for `cacheMu` waits for the writer, which is storing; one waiting for
  `compileMu` waits for its holder, which waits at most for the writer or for the readers
  of `cacheMu`, which are at a look. `getCompiledSchema_drains` puts these together.
-/
import Mathlib.Algebra.Order.BigOperators.Group.Finset
import BecknOnix.SchemaValidator.CompileCacheSafety

namespace BecknOnix.SchemaValidator

variable {G : Type} [DecidableEq G] {files : SchemaFiles} {st st' : State G}

/-! ## The work left -/

/-- The actions a goroutine at a program point has left before it is out of
    `getCompiledSchema`, on the longest path (a miss, a compile, a store). -/
def PC.left : PC → Nat
  | .idle => 0
  | .rlock1 => 9
  | .lookup1 => 8
  | .lockCompile => 7
  | .rlock2 => 6
  | .lookup2 => 5
  | .compiling => 4
  | .lockCache _ => 3
  | .store _ => 2
  | .release _ => 1

/-- Every action moves one goroutine: from idle into a call, or forward in it. -/
theorem Step.advance (h : Step files st st') :
    ∃ t p, st'.pc = Function.update st.pc t p ∧
      ((st.pc t = .idle ∧ p = .rlock1) ∨ p.left < (st.pc t).left) := by
  cases h with
  | call t key h₀ => exact ⟨t, _, rfl, .inl ⟨h₀, rfl⟩⟩
  | rlock1 t h₀ _ | hit1 t _ h₀ _ | notFound t h₀ _ _ | miss1 t h₀ _ _ | lockCompile t h₀ _
  | rlock2 t h₀ _ | hit2 t _ h₀ _ | miss2 t h₀ _ | compileOk t _ h₀ | compileErr t h₀
  | lockCache t _ h₀ _ _ | store t _ h₀ | release t _ h₀ =>
    exact ⟨t, _, rfl, .inr (by simp only [h₀, PC.left]; decide)⟩

/-- An action that starts no call: every idle goroutine stays idle. -/
def Settle (files : SchemaFiles) (st st' : State G) : Prop :=
  Step files st st' ∧ ∀ u, st.pc u = .idle → st'.pc u = .idle

/-- An action of a goroutine inside a call starts no call. -/
theorem Settle.of_busy (h : Step files st st') {t : G} {p : PC} (ht : st.pc t ≠ .idle)
    (hpc : st'.pc = Function.update st.pc t p) : Settle files st st' :=
  ⟨h, fun u hu => by rw [hpc, Function.update_noteq fun (e : u = t) => ht (e ▸ hu)]; exact hu⟩

/-- An action that starts no call moves a goroutine forward in its call. -/
theorem Settle.advance (h : Settle files st st') :
    ∃ t p, st'.pc = Function.update st.pc t p ∧ p.left < (st.pc t).left := by
  obtain ⟨t, p, hpc, ⟨hidle, rfl⟩ | hlt⟩ := h.1.advance
  · have hstay := h.2 t hidle
    rw [hpc, Function.update_same] at hstay
    cases hstay
  · exact ⟨t, p, hpc, hlt⟩

/-- The goroutines of `s` hold every call in flight. -/
def Covers (s : Finset G) (st : State G) : Prop := ∀ u, st.pc u ≠ .idle → u ∈ s

/-- The actions left to the goroutines of `s`. -/
def workLeft (s : Finset G) (st : State G) : Nat := ∑ u ∈ s, (st.pc u).left

/-- Moving `t` keeps a covering set covering once `t` is added to it. -/
theorem Covers.move {s : Finset G} (hs : Covers s st) {t : G} {p : PC}
    (hpc : st'.pc = Function.update st.pc t p) : Covers (insert t s) st' := by
  intro u hu
  by_cases hut : u = t
  · exact hut ▸ Finset.mem_insert_self t s
  · rw [hpc, Function.update_noteq hut] at hu
    exact Finset.mem_insert_of_mem (hs u hu)

/-- Only finitely many goroutines are ever inside a call. -/
theorem Reachable.covered (hr : Reachable files st) : ∃ s : Finset G, Covers s st := by
  induction hr with
  | init => exact ⟨∅, fun _ h => absurd rfl h⟩
  | step _ h ih =>
    obtain ⟨s, hs⟩ := ih
    obtain ⟨t, p, hpc, -⟩ := h.advance
    exact ⟨insert t s, hs.move hpc⟩

/-- An action that starts no call keeps a covering set covering and lowers the work left
    to it. -/
theorem Settle.workLeft_lt {s : Finset G} (hs : Covers s st) (h : Settle files st st') :
    Covers s st' ∧ workLeft s st' < workLeft s st := by
  obtain ⟨t, p, hpc, hlt⟩ := h.advance
  have ht : t ∈ s := hs t fun e => by rw [e] at hlt; exact Nat.not_lt_zero _ hlt
  refine ⟨Finset.insert_eq_of_mem ht ▸ hs.move hpc,
    Finset.sum_lt_sum (fun u _ => ?_) ⟨t, ht, by rwa [hpc, Function.update_same]⟩⟩
  by_cases hut : u = t
  · subst hut
    rw [hpc, Function.update_same]
    exact hlt.le
  · rw [hpc, Function.update_noteq hut]

/-! ## Someone can always go on -/

/-- A goroutine at a look can always go on. -/
theorem moves_of_reading {u : G} (hu : (st.pc u).reading) : ∃ st', Settle files st st' := by
  have hbusy : st.pc u ≠ .idle := fun e => by rw [e] at hu; cases hu
  cases hp : st.pc u with
  | lookup1 =>
    cases hc : st.cache (st.key u) with
    | some s => exact ⟨_, .of_busy (.hit1 u s hp hc) hbusy rfl⟩
    | none =>
      cases hf : files (st.key u) with
      | none => exact ⟨_, .of_busy (.notFound u hp hc hf) hbusy rfl⟩
      | some path => exact ⟨_, .of_busy (.miss1 u hp hc (by rw [hf]; rfl)) hbusy rfl⟩
  | lookup2 =>
    cases hc : st.cache (st.key u) with
    | some s => exact ⟨_, .of_busy (.hit2 u s hp hc) hbusy rfl⟩
    | none => exact ⟨_, .of_busy (.miss2 u hp hc) hbusy rfl⟩
  | _ => rw [hp] at hu; cases hu

/-- The writer of `cacheMu` can go on: it is storing. -/
theorem Inv.writer_moves (hi : Inv st) {w : G} (hw : st.writer = some w) :
    ∃ st', Settle files st st' := by
  have hs := (hi.writer_store w).1 hw
  cases hp : st.pc w with
  | store s => exact ⟨_, .of_busy (.store w s hp) (by rw [hp]; nofun) rfl⟩
  | _ => rw [hp] at hs; cases hs

/-- The holder of `compileMu` can go on, or else the writer or a reader of `cacheMu` it
    waits for can. -/
theorem Inv.holder_moves (hi : Inv st) {u : G} (hu : (st.pc u).holdsCompileMu) :
    ∃ st', Settle files st st' := by
  have hbusy : st.pc u ≠ .idle := fun e => by rw [e] at hu; cases hu
  cases hp : st.pc u with
  | rlock2 =>
    cases hw : st.writer with
    | none => exact ⟨_, .of_busy (.rlock2 u hp hw) hbusy rfl⟩
    | some w => exact hi.writer_moves hw
  | lookup2 => exact moves_of_reading (by rw [hp]; rfl)
  | compiling => exact ⟨_, .of_busy (.compileErr u hp) hbusy rfl⟩
  | lockCache s =>
    cases hw : st.writer with
    | some w => exact hi.writer_moves hw
    | none =>
      by_cases hr : st.readers = ∅
      · exact ⟨_, .of_busy (.lockCache u s hp hw hr) hbusy rfl⟩
      · obtain ⟨v, hv⟩ := Finset.nonempty_iff_ne_empty.mpr hr
        exact moves_of_reading ((hi.readers_reading v).1 hv)
  | store s => exact ⟨_, .of_busy (.store u s hp) hbusy rfl⟩
  | release s => exact ⟨_, .of_busy (.release u s hp) hbusy rfl⟩
  | _ => rw [hp] at hu; cases hu

/-- No deadlock: while a goroutine is inside a call, some goroutine inside a call can take
    an action. -/
theorem Inv.progress (hi : Inv st) {t : G} (ht : st.pc t ≠ .idle) : ∃ st', Settle files st st' := by
  cases hp : st.pc t with
  | idle => exact absurd hp ht
  | rlock1 =>
    cases hw : st.writer with
    | none => exact ⟨_, .of_busy (.rlock1 t hp hw) ht rfl⟩
    | some w => exact hi.writer_moves hw
  | lookup1 => exact moves_of_reading (by rw [hp]; rfl)
  | lockCompile =>
    cases hm : st.compileMu with
    | none => exact ⟨_, .of_busy (.lockCompile t hp hm) ht rfl⟩
    | some u => exact hi.holder_moves ((hi.compileMu_holds u).1 hm)
  | rlock2 | lookup2 | compiling | lockCache _ | store _ | release _ =>
    exact hi.holder_moves (by rw [hp]; rfl)

omit [DecidableEq G] in
/-- With every goroutine out of `getCompiledSchema`, both locks are free. -/
theorem Inv.locks_free (hi : Inv st) (hidle : ∀ u, st.pc u = .idle) :
    st.readers = ∅ ∧ st.writer = none ∧ st.compileMu = none := by
  refine ⟨Finset.eq_empty_of_forall_not_mem fun u hu => ?_, ?_, ?_⟩
  · have hr := (hi.readers_reading u).1 hu
    rw [hidle u] at hr
    cases hr
  · cases hw : st.writer with
    | none => rfl
    | some u =>
      have hs := (hi.writer_store u).1 hw
      rw [hidle u] at hs
      cases hs
  · cases hm : st.compileMu with
    | none => rfl
    | some u =>
      have hh := (hi.compileMu_holds u).1 hm
      rw [hidle u] at hh
      cases hh

/-! ## Every call in flight returns -/

/-- `n` actions, none of them a call. -/
inductive SettleRun (files : SchemaFiles) : Nat → State G → State G → Prop where
  | refl (st : State G) : SettleRun files 0 st st
  | step {n : Nat} {st st' st'' : State G} :
      Settle files st st' → SettleRun files n st' st'' → SettleRun files (n + 1) st st''

theorem SettleRun.reachable {n : Nat} (h : SettleRun files n st st') (hr : Reachable files st) :
    Reachable files st' := by
  induction h with
  | refl => exact hr
  | step hs _ ih => exact ih (hr.step hs.1)

/-- A run that starts no call takes at most the work left to a covering set. -/
theorem SettleRun.bound {s : Finset G} {n : Nat} (h : SettleRun files n st st') (hs : Covers s st) :
    n + workLeft s st' ≤ workLeft s st := by
  induction h with
  | refl => exact (Nat.zero_add _).le
  | step hstep _ ih =>
    obtain ⟨hs', hlt⟩ := hstep.workLeft_lt hs
    have := ih hs'
    omega

/-- From a reachable state, actions that start no call bring every goroutine out. -/
theorem Reachable.drain (hr : Reachable files st) {s : Finset G} (hs : Covers s st) :
    ∃ n st', SettleRun files n st st' ∧ ∀ u, st'.pc u = .idle := by
  obtain ⟨w, hw⟩ : ∃ w, workLeft s st = w := ⟨_, rfl⟩
  induction w using Nat.strong_induction_on generalizing st with
  | _ w ih =>
    by_cases hidle : ∀ u, st.pc u = .idle
    · exact ⟨0, st, .refl st, hidle⟩
    · obtain ⟨t, ht⟩ := not_forall.mp hidle
      obtain ⟨st', h⟩ := hr.inv.progress ht
      obtain ⟨hs', hlt⟩ := h.workLeft_lt hs
      obtain ⟨n, st'', hrun, hall⟩ := ih _ (hw ▸ hlt) (hr.step h.1) hs' rfl
      exact ⟨n + 1, st'', .step h hrun, hall⟩

/-- `getCompiledSchema` over every interleaving cannot deadlock and never leaves a call
    hanging: from every reachable state, the runs in which no new call starts take a
    bounded number of actions; such a run that cannot go on has brought every goroutine
    out of its call; and one such run ends with every goroutine out and both locks
    free. -/
theorem getCompiledSchema_drains (hr : Reachable files st) :
    ∃ bound : Nat,
      (∀ n st', SettleRun files n st st' → n ≤ bound) ∧
      (∀ n st', SettleRun files n st st' → (∀ st'', ¬ Settle files st' st'') →
        ∀ u, st'.pc u = .idle) ∧
      ∃ n st', SettleRun files n st st' ∧ (∀ u, st'.pc u = .idle) ∧
        st'.readers = ∅ ∧ st'.writer = none ∧ st'.compileMu = none := by
  obtain ⟨s, hs⟩ := hr.covered
  refine ⟨workLeft s st, fun n st' h => Nat.le_of_add_right_le (h.bound hs),
    fun n st' h hstuck u => ?_, ?_⟩
  · by_contra hu
    obtain ⟨st'', h''⟩ := (h.reachable hr).inv.progress hu
    exact hstuck st'' h''
  · obtain ⟨n, st', h, hidle⟩ := hr.drain hs
    exact ⟨n, st', h, hidle, ((h.reachable hr).inv.locks_free hidle)⟩

/-- Goroutine `true` compiling the schema of `k` while goroutine `false`, having missed
    it, waits for `compileMu`: the runs that start no call end with both out. -/
theorem getCompiledSchema_drains_blocked :
    ∃ st : State Bool, Reachable everyKeyFiled st ∧ st.pc true = .compiling ∧
      st.pc false = .lockCompile ∧
      ∃ bound : Nat,
        (∀ n st', SettleRun everyKeyFiled n st st' → n ≤ bound) ∧
        (∀ n st', SettleRun everyKeyFiled n st st' → (∀ st'', ¬ Settle everyKeyFiled st' st'') →
          ∀ u, st'.pc u = .idle) ∧
        ∃ n st', SettleRun everyKeyFiled n st st' ∧ (∀ u, st'.pc u = .idle) ∧
          st'.readers = ∅ ∧ st'.writer = none ∧ st'.compileMu = none := by
  have r := (@Reachable.init Bool _ everyKeyFiled).step (Step.call true "k" rfl)
  replace r := r.step (Step.rlock1 true rfl rfl)
  replace r := r.step (Step.miss1 true rfl rfl rfl)
  replace r := r.step (Step.lockCompile true rfl rfl)
  replace r := r.step (Step.rlock2 true rfl rfl)
  replace r := r.step (Step.miss2 true rfl rfl)
  replace r := r.step (Step.call false "k" rfl)
  replace r := r.step (Step.rlock1 false rfl rfl)
  replace r := r.step (Step.miss1 false rfl rfl rfl)
  exact ⟨_, r, rfl, rfl, getCompiledSchema_drains r⟩

end BecknOnix.SchemaValidator
