import WasmSandbox.Proofs.Context.Upkeep
import WasmSandbox.Proofs.Environment.Retention

/-!
Contract: what an environment hands out are artifacts of valid modules.

Owns:
- that every compilation checks the module that it reads, and that whatever is kept was
  compiled;
- that a life in which only compiled artifacts are linked is one with valid modules.

Does not own: what follows from a module being valid (`WasmSandbox.Proofs.Engine.Placement`).
-/

namespace WasmSandbox

namespace Environment

variable {environment : Environment} {artifact : Artifact} {input : List UInt8}

/-- A compilation reads a module, and checks it. -/
theorem valid_of_compileFresh {digest : List UInt8}
    (made : environment.compileFresh input digest = .ok artifact) : artifact.module.Valid := by
  unfold compileFresh at made
  cases read : Wasm.Module.ofBytes (features environment.config) input with
  | error diagnostic =>
      rw [read] at made
      contradiction
  | ok module =>
      simp only [read, bind, Except.bind, pure, Except.pure] at made
      split at made
      · cases made
        exact Wasm.Module.valid_of_ofBytes read
      · contradiction

/-- The artifacts that are kept have valid modules. -/
def KeepsValid (environment : Environment) : Prop :=
  ∀ entry ∈ environment.cache, entry.2.module.Valid

/-- Where valid modules are kept, a compilation answers with one. -/
theorem KeepsValid.compile (valid : environment.KeepsValid) {after : Environment}
    (compiled : environment.compile input = .ok (artifact, after)) : artifact.module.Valid := by
  have outcome := environment.compile_compiled input
  rw [compiled] at outcome
  cases outcome with
  | found kept => exact valid _ (cached?_mem kept)
  | made fresh config keeps => exact valid_of_compileFresh fresh

theorem KeepsValid.act (valid : environment.KeepsValid) (act : CacheAct) :
    (environment.act act).KeepsValid := by
  intro entry isKept
  rcases mem_of_mem_act isKept with before | ⟨input, -, -, next, compiled⟩
  · exact valid entry before
  · exact valid.compile compiled

/-- Whatever happens to an environment, only valid modules are kept. -/
theorem KeepsValid.after (valid : environment.KeepsValid) (acts : List CacheAct) :
    (environment.after acts).KeepsValid := by
  induction acts generalizing environment with
  | nil => exact valid
  | cons act acts inductionHypothesis => exact inductionHypothesis (valid.act act)

end Environment

/-- An artifact that was handed out by an environment, at any time. -/
def Artifact.Compiled (artifact : Artifact) : Prop :=
  ∃ id config environment, Environment.create id config = .ok environment ∧
    ∃ acts input after, (environment.after acts).compile input = .ok (artifact, after)

theorem Artifact.Compiled.valid {artifact : Artifact} (compiled : artifact.Compiled) :
    artifact.module.Valid := by
  obtain ⟨id, config, environment, created, acts, input, after, handedOut⟩ := compiled
  have valid : environment.KeepsValid := by
    intro entry isKept
    rw [(Environment.create_eq created).2] at isKept
    contradiction
  exact (valid.after acts).compile handedOut

/-- A life in which only compiled artifacts are linked is one with valid modules. -/
theorem LinksValid.of_compiled {σ : Type} {past : List (Stage σ × Act σ)}
    (compiled : ∀ happened ∈ past, ∀ call, happened.1.linkBegun? happened.2 = some call →
      call.artifact.Compiled) : LinksValid past :=
  fun happened member call begun => (compiled happened member call begun).valid

end WasmSandbox
