import WasmSandbox.Environment

/-!
Contract: keeping artifacts changes nothing of what compiling shows.

Owns:
- what an input compiles to under a configuration, as far as an artifact shows it;
- what an embedder can do with the artifacts that an environment keeps;
- that every artifact kept is what an input with its digest compiles to;
- that compiling shows the same whether artifacts are kept or not.

An input that is found by its digest is neither read nor checked.  That is right as long as
the inputs that were compiled have distinct digests.

Does not own: which compilations give the very same artifact.
-/

namespace WasmSandbox

/-! ## What compiling shows -/

/-- What an artifact shows of itself. -/
structure Description where
  imports : List ImportDecl
  exports : List ExportDecl
  name : Option String
  digest : List UInt8
deriving DecidableEq

def Artifact.description (artifact : Artifact) : Description :=
  ⟨artifact.imports, artifact.exports, artifact.name, artifact.digest⟩

/-- What an input compiles to, in every environment with this configuration. -/
def Config.describe (config : Config) (input : List UInt8) : Except CompileError Description := do
  let module ← (Wasm.Module.ofBytes (Environment.features config) input).mapError .malformed
  let surface ← Surface.ofModule module
  return ⟨surface.imports, surface.exports, module.name, Blake3.digest input⟩

namespace Environment

/-- What a compilation shows: an error, or the description of the artifact. -/
def shown (environment : Environment) (input : List UInt8) : Except CompileError Description :=
  (environment.compile input).map fun made => made.1.description

/-- Without a look at what is kept, an input compiles to what the configuration says. -/
theorem description_compileFresh (environment : Environment) (input : List UInt8) :
    (environment.compileFresh input (Blake3.digest input)).map Artifact.description =
      environment.config.describe input := by
  unfold compileFresh Config.describe
  cases Wasm.Module.ofBytes (features environment.config) input with
  | error diagnostic => rfl
  | ok module =>
      have isRead : (Except.ok module : Except String Wasm.Module).mapError CompileError.malformed =
        .ok module := rfl
      simp only [isRead, bind, Except.bind, pure, Except.pure]
      split
      · rename_i surface described
        conv => rhs; rw [described]
        rfl
      · rename_i error described
        conv => rhs; rw [described]
        rfl

/-- All that a compilation can come to. -/
inductive Compiled (environment : Environment) (input : List UInt8) :
    Except CompileError (Artifact × Environment) → Prop where
  /-- The artifact was kept. -/
  | found {artifact : Artifact}
      (kept : environment.cached? (Blake3.digest input) = some artifact) :
      Compiled environment input (.ok (artifact, environment))
  /-- The input is compiled, and its artifact may be kept. -/
  | made {artifact : Artifact} {after : Environment}
      (fresh : environment.compileFresh input (Blake3.digest input) = .ok artifact)
      (config : after.config = environment.config)
      (keeps : after.cache = environment.cache ∨
        after.cache = (Blake3.digest input, artifact) :: environment.cache) :
      Compiled environment input (.ok (artifact, after))
  | failed {error : CompileError}
      (absent : environment.cached? (Blake3.digest input) = none)
      (fresh : environment.compileFresh input (Blake3.digest input) = .error error) :
      Compiled environment input (.error error)

theorem compile_compiled (environment : Environment) (input : List UInt8) :
    Compiled environment input (environment.compile input) := by
  unfold compile
  simp only
  cases kept : environment.cached? (Blake3.digest input) with
  | some artifact => exact .found kept
  | none =>
      cases fresh : environment.compileFresh input (Blake3.digest input) with
      | error error => exact .failed kept fresh
      | ok artifact =>
          show Compiled environment input (if _ then _ else _)
          split
          · exact .made fresh rfl (.inr rfl)
          · exact .made fresh rfl (.inl rfl)

end Environment

/-! ## What happens to the artifacts that are kept -/

/-- What an embedder can do with the artifacts that an environment keeps. -/
inductive CacheAct where
  | compile (input : List UInt8)
  | evict (artifact : Artifact)
  | clear

/-- The input that is compiled. -/
def CacheAct.input? : CacheAct → Option (List UInt8)
  | .compile input => some input
  | _ => none

namespace Environment

/-- The environment after an act.  A compilation that fails leaves it as it was. -/
def act (environment : Environment) : CacheAct → Environment
  | .compile input =>
      match environment.compile input with
      | .ok (_, after) => after
      | .error _ => environment
  | .evict artifact => (environment.evict artifact).2
  | .clear => environment.clearCache

theorem act_of_ok {environment after : Environment} {input : List UInt8} {artifact : Artifact}
    (compiled : environment.compile input = .ok (artifact, after)) :
    environment.act (.compile input) = after := by
  simp only [act, compiled]

theorem act_of_error {environment : Environment} {input : List UInt8} {error : CompileError}
    (failed : environment.compile input = .error error) :
    environment.act (.compile input) = environment := by
  simp only [act, failed]

/-- The environment after some acts, in their order. -/
def after (environment : Environment) (acts : List CacheAct) : Environment :=
  acts.foldl act environment

/-- Every artifact that is kept is what one of the inputs compiles to, and is kept under the
digest of that input. -/
def Faithful (environment : Environment) (inputs : List (List UInt8)) : Prop :=
  ∀ entry ∈ environment.cache, ∃ input ∈ inputs, entry.1 = Blake3.digest input ∧
    environment.config.describe input = .ok entry.2.description

variable {environment : Environment} {inputs : List (List UInt8)}

/-- What is dropped, and what more is compiled, does not matter. -/
theorem Faithful.mono (faithful : environment.Faithful inputs) {after : Environment}
    {more : List (List UInt8)} (config : after.config = environment.config)
    (fewer : ∀ entry ∈ after.cache, entry ∈ environment.cache)
    (used : ∀ input ∈ inputs, input ∈ more) : after.Faithful more := by
  intro entry isKept
  obtain ⟨input, isUsed, isDigest, described⟩ := faithful entry (fewer entry isKept)
  exact ⟨input, used input isUsed, isDigest, by rw [config, described]⟩

/-- An artifact that was just compiled may be kept. -/
theorem Faithful.keep {input : List UInt8} {artifact : Artifact}
    (faithful : environment.Faithful inputs) (isUsed : input ∈ inputs)
    (fresh : environment.compileFresh input (Blake3.digest input) = .ok artifact)
    {after : Environment} (config : after.config = environment.config)
    (keeps : after.cache = (Blake3.digest input, artifact) :: environment.cache) :
    after.Faithful inputs := by
  have described := environment.description_compileFresh input
  rw [fresh] at described
  intro entry isKept
  rw [keeps] at isKept
  rw [config]
  rcases List.mem_cons.1 isKept with rfl | isOld
  · exact ⟨input, isUsed, rfl, described.symm⟩
  · exact faithful entry isOld

theorem compile_faithful (faithful : environment.Faithful inputs) (input : List UInt8) :
    (environment.act (.compile input)).config = environment.config ∧
      (environment.act (.compile input)).Faithful (inputs ++ [input]) := by
  have used : environment.Faithful (inputs ++ [input]) :=
    faithful.mono rfl (fun _ isKept => isKept) fun _ isUsed => List.mem_append_left _ isUsed
  have compiled := environment.compile_compiled input
  cases outcome : environment.compile input with
  | error error =>
      rw [act_of_error outcome]
      exact ⟨rfl, used⟩
  | ok made =>
      obtain ⟨artifact, after⟩ := made
      rw [act_of_ok outcome]
      rw [outcome] at compiled
      cases compiled with
      | found kept => exact ⟨rfl, used⟩
      | made fresh config keeps =>
          refine ⟨config, ?_⟩
          rcases keeps with same | keeps
          · exact used.mono config (fun _ isKept => same ▸ isKept) fun _ isUsed => isUsed
          · exact used.keep (List.mem_append_right _ (List.mem_singleton_self input)) fresh config
              keeps

/-- Eviction drops the artifacts under one digest, or nothing. -/
theorem evict_eq (environment : Environment) (artifact : Artifact) :
    (environment.evict artifact).2 = environment ∨
      (environment.evict artifact).2 = { environment with
        cache := environment.cache.filter fun entry => entry.1 ≠ artifact.digest } := by
  unfold evict
  split
  · split
    · exact .inr rfl
    · exact .inl rfl
  · exact .inl rfl

/-- An act keeps the configuration, and keeps only what an input compiles to. -/
theorem act_faithful (faithful : environment.Faithful inputs) (act : CacheAct) :
    (environment.act act).config = environment.config ∧
      (environment.act act).Faithful (inputs ++ act.input?.toList) := by
  cases act with
  | compile input => exact compile_faithful faithful input
  | clear => exact ⟨rfl, nofun⟩
  | evict artifact =>
      show (environment.evict artifact).2.config = environment.config ∧
        (environment.evict artifact).2.Faithful (inputs ++ [])
      rw [List.append_nil]
      rcases environment.evict_eq artifact with same | dropped
      · rw [same]
        exact ⟨rfl, faithful⟩
      · rw [dropped]
        exact ⟨rfl, faithful.mono rfl (fun _ isKept => (List.mem_filter.1 isKept).1)
          fun _ isUsed => isUsed⟩

/-- Whatever happens, an environment keeps its configuration, and keeps only what the inputs
that were compiled compile to. -/
theorem after_faithful (faithful : environment.Faithful inputs) (acts : List CacheAct) :
    (environment.after acts).config = environment.config ∧
      (environment.after acts).Faithful (inputs ++ acts.filterMap CacheAct.input?) := by
  induction acts generalizing environment inputs with
  | nil =>
      rw [List.filterMap_nil, List.append_nil]
      exact ⟨rfl, faithful⟩
  | cons act acts inductionHypothesis =>
      obtain ⟨sameConfig, faithful⟩ := act_faithful faithful act
      obtain ⟨config, faithful⟩ := inductionHypothesis faithful
      refine ⟨config.trans sameConfig, ?_⟩
      rw [List.append_assoc] at faithful
      cases input : act.input? <;> simpa [after, input] using faithful

/-- Nothing is kept at first. -/
theorem create_eq {id : EnvironmentId} {config : Config}
    (created : create id config = .ok environment) :
    environment.config = config ∧ environment.cache = [] := by
  unfold create at created
  split at created
  · contradiction
  · cases created
    exact ⟨rfl, rfl⟩

/-- Whatever becomes of a new environment, it keeps only what the inputs that were compiled
compile to. -/
theorem faithful_of_create {id : EnvironmentId} {config : Config}
    (created : create id config = .ok environment) (acts : List CacheAct) :
    (environment.after acts).config = config ∧
      (environment.after acts).Faithful (acts.filterMap CacheAct.input?) := by
  obtain ⟨isConfig, isEmpty⟩ := create_eq created
  have begins : environment.Faithful [] := by
    intro entry isKept
    rw [isEmpty] at isKept
    contradiction
  obtain ⟨sameConfig, faithful⟩ := after_faithful begins acts
  exact ⟨sameConfig.trans isConfig, faithful⟩

/-! ## What is kept does not show -/

/-- Distinct ones of these inputs have distinct digests. -/
def DigestsDistinct (inputs : List (List UInt8)) : Prop :=
  ∀ first ∈ inputs, ∀ second ∈ inputs, Blake3.digest first = Blake3.digest second →
    first = second

theorem cached?_mem {digest : List UInt8} {artifact : Artifact}
    (kept : environment.cached? digest = some artifact) :
    (digest, artifact) ∈ environment.cache := by
  unfold cached? at kept
  split at kept
  · obtain ⟨before, behind, isCache, -⟩ := List.lookup_eq_some_iff.1 kept
    rw [isCache]
    exact List.mem_append_right _ (List.mem_cons_self ..)
  · contradiction

/-- An environment that is not to keep artifacts compiles every input. -/
theorem shown_of_off (off : environment.config.cacheArtifacts = false) (input : List UInt8) :
    environment.shown input = environment.config.describe input := by
  have compiled := environment.compile_compiled input
  have described := environment.description_compileFresh input
  unfold shown
  generalize environment.compile input = outcome at compiled
  cases compiled with
  | found kept => simp [cached?, off] at kept
  | failed absent fresh =>
      rw [fresh] at described
      exact described
  | made fresh config keeps =>
      rw [fresh] at described
      exact described

/-- What is found under the digest of an input is what the input compiles to, if no other input
that was compiled has this digest. -/
theorem Faithful.shown_of_unique (faithful : environment.Faithful inputs) {input : List UInt8}
    (unique : ∀ used ∈ inputs, Blake3.digest used = Blake3.digest input → used = input) :
    environment.shown input = environment.config.describe input := by
  have compiled := environment.compile_compiled input
  have described := environment.description_compileFresh input
  unfold shown
  generalize environment.compile input = outcome at compiled
  cases compiled with
  | found kept =>
      obtain ⟨used, isUsed, isDigest, described⟩ := faithful _ (cached?_mem kept)
      rw [← unique used isUsed isDigest.symm, described]
      rfl
  | failed absent fresh =>
      rw [fresh] at described
      exact described
  | made fresh config keeps =>
      rw [fresh] at described
      exact described

theorem Faithful.shown_eq (faithful : environment.Faithful inputs) {input : List UInt8}
    (distinct : DigestsDistinct (input :: inputs)) :
    environment.shown input = environment.config.describe input :=
  faithful.shown_of_unique fun used isUsed sameDigest =>
    distinct used (List.mem_cons_of_mem _ isUsed) input (List.mem_cons_self ..) sameDigest

/-- The input compiles in both environments alike: with the same error, or to artifacts with
the same imports, exports, name and digest.  A failure leaves what is kept as it was. -/
structure CacheTransparent (kept plain : Environment) (input : List UInt8) : Prop where
  agrees : kept.shown input = plain.shown input
  failed : ∀ error, kept.compile input = .error error →
    kept.act (.compile input) = kept ∧ kept.cached? (Blake3.digest input) = none

/-- Where the inputs that were compiled have distinct digests, an environment that keeps
artifacts compiles every input like one that keeps none, whatever was compiled, evicted or
cleared before. -/
theorem cacheTransparent {id plainId : EnvironmentId} {config : Config}
    {kept plain : Environment} (created : create id config = .ok kept)
    (plainCreated : create plainId { config with cacheArtifacts := false } = .ok plain)
    (acts others : List CacheAct) (input : List UInt8)
    (distinct : DigestsDistinct (input :: acts.filterMap CacheAct.input?)) :
    CacheTransparent (kept.after acts) (plain.after others) input := by
  obtain ⟨isConfig, isEmpty⟩ := create_eq created
  obtain ⟨isPlain, isPlainEmpty⟩ := create_eq plainCreated
  have begins : kept.Faithful [] := by
    rw [Faithful, isEmpty]
    exact nofun
  have plainBegins : plain.Faithful [] := by
    rw [Faithful, isPlainEmpty]
    exact nofun
  obtain ⟨config, faithful⟩ := after_faithful begins acts
  obtain ⟨plainConfig, -⟩ := after_faithful plainBegins others
  rw [isConfig] at config
  rw [isPlain] at plainConfig
  refine ⟨?agrees, ?failed⟩
  case agrees =>
    have off : (plain.after others).config.cacheArtifacts = false := by rw [plainConfig]
    rw [faithful.shown_eq distinct, shown_of_off off, config, plainConfig]
    rfl
  case failed =>
    intro error failed
    refine ⟨act_of_error failed, ?_⟩
    have compiled := (kept.after acts).compile_compiled input
    rw [failed] at compiled
    cases compiled with
    | failed absent fresh => exact absent

/-- An environment with the configuration of all defaults, which keeps artifacts. -/
def ofDefaults : Environment := { id := ⟨0⟩, config := {} }

/-- An environment that differs in that it keeps none. -/
def withoutCache : Environment := { id := ⟨1⟩, config := { cacheArtifacts := false } }

/-- The text `(module)`. -/
def emptyModule : List UInt8 := [0x28, 0x6d, 0x6f, 0x64, 0x75, 0x6c, 0x65, 0x29]

/-- The same text without its end. -/
def brokenModule : List UInt8 := [0x28, 0x6d, 0x6f, 0x64, 0x75, 0x6c, 0x65]

/-- A module is compiled, a text that is none fails, and the module is found when it is
compiled again. -/
theorem cacheTransparent_of_found :
    create ⟨0⟩ {} = .ok ofDefaults ∧ create ⟨1⟩ { cacheArtifacts := false } = .ok withoutCache ∧
      DigestsDistinct [emptyModule, emptyModule, brokenModule] ∧
        ((ofDefaults.after [.compile emptyModule, .compile brokenModule]).cached?
          (Blake3.digest emptyModule)).isSome ∧
          CacheTransparent (ofDefaults.after [.compile emptyModule, .compile brokenModule])
            (withoutCache.after []) emptyModule := by
  have distinct : DigestsDistinct [emptyModule, emptyModule, brokenModule] := by
    unfold DigestsDistinct
    decide +kernel
  have created : create ⟨0⟩ {} = .ok ofDefaults := rfl
  have plainCreated : create ⟨1⟩ { cacheArtifacts := false } = .ok withoutCache := rfl
  exact ⟨created, plainCreated, distinct, by decide +kernel,
    cacheTransparent created plainCreated _ _ _ distinct⟩

end Environment

end WasmSandbox
