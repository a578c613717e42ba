/-
  BecknOnix.SchemaValidator.CompileCacheLookup

  The concurrent `getCompiledSchema` answers as the sequential lookup of `schemaFiles`
  does, over every interleaving.

  `Filed` is what the first look's `schemaFiles` check leaves behind: a goroutine past
  it holds a filed key, so only filed keys are ever compiled and cached, and every
  `errSchemaKeyNotFound` was for a key that is not filed. With `Inv` (every returned
  schema is the cached one) this gives `getCompiledSchema_refines_selectSchema`: for the
  key `Validate` builds, a call that found nothing is `selectSchema`'s "schema not
  found", and a call that returned a schema is `selectSchema` selecting a file.
-/
import BecknOnix.SchemaValidator.CompileCacheSafety

namespace BecknOnix.SchemaValidator

open BecknOnix.Go

variable {G : Type} [DecidableEq G] {files : SchemaFiles} {st st' : State G}

/-- Past the first look's `schemaFiles` check, up to the return. -/
def PC.pastLookup : PC → Bool
  | .lockCompile | .rlock2 | .lookup2 | .compiling | .lockCache _ | .store _ | .release _ => true
  | _ => false

/-- What the `schemaFiles` check guarantees along a run. -/
structure Filed (files : SchemaFiles) (st : State G) : Prop where
  /-- A goroutine past the check asked for a filed key. -/
  past_filed : ∀ u, (st.pc u).pastLookup → (files (st.key u)).isSome
  /-- Only filed keys are cached. -/
  cached_filed : ∀ k s, st.cache k = some s → (files k).isSome
  /-- Every `errSchemaKeyNotFound` was for a key that is not filed. -/
  notFound_unfiled : ∀ k, Event.notFound k ∈ st.log → files k = none

omit [DecidableEq G] in
theorem filed_init : Filed files (State.init : State G) where
  past_filed _ := by simp [State.init, PC.pastLookup]
  cached_filed _ _ h := by simp [State.init] at h
  notFound_unfiled _ h := by simp [State.init] at h

/-! ## One step -/

theorem Filed.past_step (hf : Filed files st) (h : Step files st st') :
    ∀ u, (st'.pc u).pastLookup → (files (st'.key u)).isSome := by
  have frame : ∀ {t p}, (p.pastLookup → (files (st.key t)).isSome) →
      ∀ u, ((st.setPc t p).pc u).pastLookup → (files (st.key u)).isSome :=
    forall_setPc (Q := fun u q => q.pastLookup → (files (st.key u)).isSome)
      fun u _ => hf.past_filed u
  cases h with
  | call t key h₀ =>
    exact forall_setPc_key (Q := fun k q => q.pastLookup → (files k).isSome) hf.past_filed
      (by simp [PC.pastLookup])
  | miss1 t h₀ _ hfile => exact frame fun _ => hfile
  | lockCompile t h₀ _ | rlock2 t h₀ _ | miss2 t h₀ _ | compileOk t _ h₀ | lockCache t _ h₀ _ _
  | store t _ h₀ => exact frame fun _ => hf.past_filed t (by simp [h₀, PC.pastLookup])
  | _ => exact frame (by simp [PC.pastLookup])

theorem Filed.cached_step (hf : Filed files st) (h : Step files st st') :
    ∀ k s, st'.cache k = some s → (files k).isSome := by
  cases h with
  | store t s' h₀ =>
    intro k s hk
    by_cases hkt : k = st.key t
    · subst hkt
      exact hf.past_filed t (by simp [h₀, PC.pastLookup])
    · simp only [Function.update_noteq hkt] at hk
      exact hf.cached_filed k s hk
  | _ => exact hf.cached_filed

theorem Filed.notFound_step (hf : Filed files st) (h : Step files st st') :
    ∀ k, Event.notFound k ∈ st'.log → files k = none := by
  cases h with
  | notFound t h₀ _ hfile =>
    intro k hk
    rcases List.mem_append.mp hk with hk | hk
    · exact hf.notFound_unfiled k hk
    · simp only [List.mem_singleton, Event.notFound.injEq] at hk
      rw [hk]
      exact hfile
  | call | rlock1 | miss1 | lockCompile | rlock2 | lockCache | store => exact hf.notFound_unfiled
  | _ => exact fun k hk => hf.notFound_unfiled k ((List.mem_append.mp hk).resolve_right (by simp))

/-! ## Every reachable state -/

theorem Filed.step (hf : Filed files st) (h : Step files st st') : Filed files st' where
  past_filed := hf.past_step h
  cached_filed := hf.cached_step h
  notFound_unfiled := hf.notFound_step h

theorem Reachable.filed (h : Reachable files st) : Filed files st := by
  induction h with
  | init => exact filed_init
  | step _ hs ih => exact ih.step hs

/-- `getCompiledSchema` refines the sequential lookup of `Validate`: in every state some
    interleaving reaches, a call for the key `Validate` builds from a payload and a URL
    that answered `errSchemaKeyNotFound` is `selectSchema`'s "schema not found", and one
    that returned a schema is `selectSchema` selecting the file filed under the key. -/
theorem getCompiledSchema_refines_selectSchema (unicodeToLower : Char → Char) (hr : Reachable files st)
    {c : PayloadContext} {url key : String} (hk : schemaFileName unicodeToLower c url = .ok key) :
    (Event.notFound key ∈ st.log → selectSchema unicodeToLower files c url =
      .error (.badReq (.plain ("schema not found for domain: " ++ requestDomain unicodeToLower c)))) ∧
    (∀ s, Event.returned key s ∈ st.log →
      ∃ path, files key = some path ∧ selectSchema unicodeToLower files c url = .ok path) := by
  have hf := hr.filed
  refine ⟨fun hn => by simp [selectSchema, hk, hf.notFound_unfiled key hn], fun s hs => ?_⟩
  obtain ⟨path, hpath⟩ :=
    Option.isSome_iff_exists.mp (hf.cached_filed key s (hr.inv.returned_cached key s hs))
  exact ⟨path, hpath, by simp [selectSchema, hk, hpath]⟩

/-- Goroutine `true` calls for the key of an `ONDC:TRV10` search, misses, compiles schema
    `7` and returns it: `selectSchema` selects the file filed under that key. -/
theorem getCompiledSchema_refines_selectSchema_search :
    let c : PayloadContext := { domain := "ONDC:TRV10", version := "2.0.0" }
    let url := "https://bpp.example.com/search"
    let key := schemaKey Char.toLower c url
    ∃ st : State Bool, Reachable everyKeyFiled st ∧
      st.log = [.compileStart key, .compiled key 7, .returned key 7] ∧
      schemaFileName Char.toLower c url = .ok key ∧
      ((Event.notFound key ∈ st.log → selectSchema Char.toLower everyKeyFiled c url =
          .error (.badReq (.plain ("schema not found for domain: " ++ requestDomain Char.toLower c)))) ∧
        (∀ s, Event.returned key s ∈ st.log →
          ∃ path, everyKeyFiled key = some path ∧ selectSchema Char.toLower everyKeyFiled c url = .ok path)) := by
  intro c url key
  have r := (@Reachable.init Bool _ everyKeyFiled).step (Step.call true key rfl)
  replace r := r.step (Step.rlock1 true rfl rfl)
  replace r := r.step (Step.miss1 true rfl rfl rfl)
  replace r := r.step (Step.lockCompile true rfl rfl)
  replace r := r.step (Step.rlock2 true rfl rfl)
  replace r := r.step (Step.miss2 true rfl rfl)
  replace r := r.step (Step.compileOk true 7 rfl)
  replace r := r.step (Step.lockCache true 7 rfl rfl (by decide))
  replace r := r.step (Step.store true 7 rfl)
  replace r := r.step (Step.release true 7 rfl)
  have hk : schemaFileName Char.toLower c url = .ok key := rfl
  exact ⟨_, r, rfl, hk, getCompiledSchema_refines_selectSchema Char.toLower r hk⟩

end BecknOnix.SchemaValidator
