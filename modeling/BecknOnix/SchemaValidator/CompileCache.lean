/-
  BecknOnix.SchemaValidator.CompileCache

  `schemaValidator.getCompiledSchema` run by any number of goroutines at once: the
  double-checked compile cache.

  A goroutine looks the key up under the read lock of `cacheMu`; on a miss it takes
  `compileMu`, looks again under the read lock, and only then compiles and stores the
  schema under the write lock. Each constructor of `Step` is one atomic action of one
  goroutine, at the program point its `PC` names; the locks are explicit: `cacheMu` as
  its set of readers and its writer, `compileMu` as its owner. `State.log` is ghost
  state recording what the goroutines returned and did with the compiler.

  Compiled schemas are opaque values; which value `Compile` returns, and whether it
  fails, is chosen by the environment at each compile.
-/
import Mathlib.Data.Finset.Basic
import BecknOnix.SchemaValidator.Index

namespace BecknOnix.SchemaValidator

/-- A compiled schema (`*jsonschema.Schema`), as an opaque value. -/
abbrev Schema := Nat

/-- Where a goroutine is in `getCompiledSchema`. -/
inductive PC where
  /-- Not in a call. -/
  | idle
  /-- Before the first `v.cacheMu.RLock()`. -/
  | rlock1
  /-- Holding the read lock: the first look at `schemaCache` and `schemaFiles`. -/
  | lookup1
  /-- Before `v.compileMu.Lock()`. -/
  | lockCompile
  /-- Holding `compileMu`, before the second `RLock`. -/
  | rlock2
  /-- Holding `compileMu` and the read lock: the second look at `schemaCache`. -/
  | lookup2
  /-- Holding `compileMu`, inside `v.compiler.Compile`. -/
  | compiling
  /-- Holding `compileMu` with the compiled schema, before `v.cacheMu.Lock()`. -/
  | lockCache (s : Schema)
  /-- Holding `compileMu` and the write lock: `v.schemaCache[schemaKey] = s`. -/
  | store (s : Schema)
  /-- Holding `compileMu`, returning `s`; the deferred `compileMu.Unlock()` pending. -/
  | release (s : Schema)
  deriving DecidableEq, Repr

/-- Between `compileMu.Lock()` and its deferred `Unlock()`. -/
def PC.holdsCompileMu : PC → Bool
  | .rlock2 | .lookup2 | .compiling | .lockCache _ | .store _ | .release _ => true
  | _ => false

/-- Holding the read lock of `cacheMu`. -/
def PC.reading : PC → Bool
  | .lookup1 | .lookup2 => true
  | _ => false

/-- Holding the write lock of `cacheMu`. -/
def PC.storing : PC → Bool
  | .store _ => true
  | _ => false

/-- After the second look missed, up to the store. -/
def PC.missed : PC → Bool
  | .compiling | .lockCache _ | .store _ => true
  | _ => false

/-- What the ghost log records. -/
inductive Event where
  /-- A call returned `s` for `key`. -/
  | returned (key : String) (s : Schema)
  /-- A call returned `errSchemaKeyNotFound`. -/
  | notFound (key : String)
  /-- `Compile` started for `key`. -/
  | compileStart (key : String)
  /-- `Compile` returned `s` for `key`. -/
  | compiled (key : String) (s : Schema)
  /-- `Compile` failed for `key`. -/
  | compileFailed (key : String)
  deriving DecidableEq, Repr

/-- The validator's shared state, the goroutines' program points and keys, and the
    ghost log. -/
structure State (G : Type) where
  pc : G → PC
  key : G → String
  readers : Finset G
  writer : Option G
  compileMu : Option G
  cache : String → Option Schema
  log : List Event

variable {G : Type} [DecidableEq G]

/-- The state `New` leaves: an empty cache, free locks, no call running. -/
def State.init : State G :=
  { pc := fun _ => .idle, key := fun _ => "", readers := ∅, writer := none, compileMu := none,
    cache := fun _ => none, log := [] }

/-- Goroutine `t` moves to `p`. -/
def State.setPc (st : State G) (t : G) (p : PC) : State G :=
  { st with pc := Function.update st.pc t p }

/-- One atomic action of goroutine `t`, in the order of `getCompiledSchema`. -/
inductive Step (files : SchemaFiles) : State G → State G → Prop where
  /-- `t` calls `getCompiledSchema(key)`. -/
  | call {st : State G} (t : G) (key : String) (h : st.pc t = .idle) :
      Step files st { st.setPc t .rlock1 with key := Function.update st.key t key }
  /-- `v.cacheMu.RLock()`, once no writer holds the lock. -/
  | rlock1 {st : State G} (t : G) (h : st.pc t = .rlock1) (hw : st.writer = none) :
      Step files st { st.setPc t .lookup1 with readers := insert t st.readers }
  /-- The first look hits: `RUnlock`, return the cached schema. -/
  | hit1 {st : State G} (t : G) (s : Schema) (h : st.pc t = .lookup1)
      (hc : st.cache (st.key t) = some s) :
      Step files st { st.setPc t .idle with readers := st.readers.erase t,
                                            log := st.log ++ [.returned (st.key t) s] }
  /-- The key is neither cached nor filed: `RUnlock`, return `errSchemaKeyNotFound`. -/
  | notFound {st : State G} (t : G) (h : st.pc t = .lookup1) (hc : st.cache (st.key t) = none)
      (hf : files (st.key t) = none) :
      Step files st { st.setPc t .idle with readers := st.readers.erase t,
                                            log := st.log ++ [.notFound (st.key t)] }
  /-- The first look misses a filed key: `RUnlock`. -/
  | miss1 {st : State G} (t : G) (h : st.pc t = .lookup1) (hc : st.cache (st.key t) = none)
      (hf : (files (st.key t)).isSome) :
      Step files st { st.setPc t .lockCompile with readers := st.readers.erase t }
  /-- `v.compileMu.Lock()`, once the mutex is free. -/
  | lockCompile {st : State G} (t : G) (h : st.pc t = .lockCompile) (hm : st.compileMu = none) :
      Step files st { st.setPc t .rlock2 with compileMu := some t }
  /-- The second `v.cacheMu.RLock()`. -/
  | rlock2 {st : State G} (t : G) (h : st.pc t = .rlock2) (hw : st.writer = none) :
      Step files st { st.setPc t .lookup2 with readers := insert t st.readers }
  /-- The second look hits: `RUnlock`, return the cached schema, unlock `compileMu`. -/
  | hit2 {st : State G} (t : G) (s : Schema) (h : st.pc t = .lookup2)
      (hc : st.cache (st.key t) = some s) :
      Step files st { st.setPc t .idle with readers := st.readers.erase t, compileMu := none,
                                            log := st.log ++ [.returned (st.key t) s] }
  /-- The second look misses: `RUnlock`, call `Compile`. -/
  | miss2 {st : State G} (t : G) (h : st.pc t = .lookup2) (hc : st.cache (st.key t) = none) :
      Step files st { st.setPc t .compiling with readers := st.readers.erase t,
                                                 log := st.log ++ [.compileStart (st.key t)] }
  /-- `Compile` returns the schema `s`. -/
  | compileOk {st : State G} (t : G) (s : Schema) (h : st.pc t = .compiling) :
      Step files st { st.setPc t (.lockCache s) with log := st.log ++ [.compiled (st.key t) s] }
  /-- `Compile` fails: return the error, unlock `compileMu`. -/
  | compileErr {st : State G} (t : G) (h : st.pc t = .compiling) :
      Step files st { st.setPc t .idle with compileMu := none,
                                            log := st.log ++ [.compileFailed (st.key t)] }
  /-- `v.cacheMu.Lock()`, once no one holds the lock. -/
  | lockCache {st : State G} (t : G) (s : Schema) (h : st.pc t = .lockCache s)
      (hw : st.writer = none) (hr : st.readers = ∅) :
      Step files st { st.setPc t (.store s) with writer := some t }
  /-- `v.schemaCache[schemaKey] = s`, then `v.cacheMu.Unlock()`. -/
  | store {st : State G} (t : G) (s : Schema) (h : st.pc t = .store s) :
      Step files st { st.setPc t (.release s) with writer := none,
                                                    cache := Function.update st.cache (st.key t) (some s) }
  /-- Return `s`; the deferred `compileMu.Unlock()`. -/
  | release {st : State G} (t : G) (s : Schema) (h : st.pc t = .release s) :
      Step files st { st.setPc t .idle with compileMu := none,
                                            log := st.log ++ [.returned (st.key t) s] }

/-- The states some interleaving of steps reaches from `State.init`. -/
inductive Reachable (files : SchemaFiles) : State G → Prop where
  | init : Reachable files State.init
  | step {st st' : State G} : Reachable files st → Step files st st' → Reachable files st'

end BecknOnix.SchemaValidator
