import WasmSandbox.Proofs.Context.ImportWalk
import WasmSandbox.Proofs.Context.InstanceTable

/-!
Contract: where the failure of a link comes from.

Owns:
- what a link can fail with before guest code runs: another environment, what is wrong at one
  of its imports, an item that stands for nothing, items beyond the imports, or the engine;
- that a link which returns a failure, to the embedder or to a closure, failed so with the act
  that began it, or with the error of the engine that its start function ended in.

Nothing is asked of the items of a link, nor of the context in which it is begun.

Does not own: which of the failures it is (`WasmSandbox.Proofs.Context.LinkChecks`).
-/

namespace WasmSandbox

open Wasm

namespace Context

variable {σ : Type} {context : Context σ} {artifact : Artifact} {items : List Item}
  {error : LinkError}

/-! ## Before guest code runs -/

/-- What a link can fail with before guest code runs. -/
inductive LinkFails (context : Context σ) (artifact : Artifact) (items : List Item) :
    LinkError → Prop where
  | environment : LinkFails context artifact items .environmentMismatch
  | imports {position : Nat} {declared : ImportDecl} {error : LinkError}
      (isDeclared : artifact.imports[position]? = some declared)
      (fault : context.ImportFault position declared items[position]? error) :
      LinkFails context artifact items error
  /-- An item of the context stands for nothing, so it has no type. -/
  | undescribed {item : Item} (isGiven : item ∈ items) (own : item.context = context.id)
      (standsNot : ¬context.Stands item) (reason : String) :
      LinkFails context artifact items (.instantiate reason)
  | unexpected (more : artifact.imports.length < items.length) :
      LinkFails context artifact items
        (.unexpectedImports artifact.imports.length items.length)
  | engine (failure : InstantiationFailure) :
      LinkFails context artifact items (instantiationError failure)

/-- The walk over imports that are counted from `start` fails with what is wrong at one of them,
or at an item that stands for nothing. -/
theorem walkImports_fails {start : Nat} {declareds : List ImportDecl}
    (failed : context.walkImports start declareds items = .error error) :
    (∃ position declared, declareds[position]? = some declared ∧
        context.ImportFault (start + position) declared items[position]? error) ∨
      ∃ item ∈ items, item.context = context.id ∧ ¬context.Stands item ∧
        ∃ reason, error = .instantiate reason := by
  induction declareds generalizing start items with
  | nil => cases failed
  | cons declared declareds inductionHypothesis =>
      cases items with
      | nil =>
          cases failed
          exact .inl ⟨0, declared, rfl, .missing⟩
      | cons item items =>
          simp only [walkImports, bind, Except.bind] at failed
          cases first : context.checkImport declared item with
          | error found =>
              rw [first] at failed
              cases failed
              rcases checkImport_fails start first with fault | nothing
              · exact .inl ⟨0, declared, rfl, fault⟩
              · exact .inr ⟨item, List.mem_cons_self .., nothing⟩
          | ok lowered =>
              rw [first] at failed
              cases more : context.walkImports (start + 1) declareds items with
              | ok rest =>
                  rw [more] at failed
                  cases failed
              | error found =>
                  rw [more] at failed
                  cases failed
                  rcases inductionHypothesis more with
                    ⟨position, other, isDeclared, fault⟩ | ⟨other, isGiven, nothing⟩
                  · rw [Nat.add_assoc, Nat.add_comm 1] at fault
                    exact .inl ⟨position + 1, other, isDeclared, fault⟩
                  · exact .inr ⟨other, .tail _ isGiven, nothing⟩

theorem resolveImports_fails (failed : context.resolveImports artifact items = .error error) :
    context.LinkFails artifact items error := by
  simp only [resolveImports, bind, Except.bind] at failed
  cases walked : context.walkImports 0 artifact.imports items with
  | error found =>
      rw [walked] at failed
      cases failed
      rcases walkImports_fails walked with
        ⟨position, declared, isDeclared, fault⟩ | ⟨item, isGiven, own, standsNot, reason, rfl⟩
      · rw [Nat.zero_add] at fault
        exact .imports isDeclared fault
      · exact .undescribed isGiven own standsNot reason
  | ok externs =>
      rw [walked] at failed
      simp only at failed
      split at failed
      · rename_i more
        cases failed
        exact .unexpected more
      · cases failed

theorem engineLink_fails (failed : (context.engineLink artifact items).1 = .error error) :
    context.LinkFails artifact items error := by
  unfold engineLink at failed
  split at failed
  · cases failed
    exact .environment
  · cases resolved : context.resolveImports artifact items with
    | error found =>
        rw [resolved] at failed
        cases failed
        exact resolveImports_fails resolved
    | ok externs =>
        rw [resolved] at failed
        simp only at failed
        generalize instantiate context.store artifact.module externs = made at failed
        obtain ⟨outcome, store⟩ := made
        cases outcome with
        | ok owner => cases failed
        | error failure =>
            cases failed
            exact .engine failure

/-! ## Links that return -/

/-- A link that returns a failure at once failed before guest code ran. -/
theorem linkReturn?_fails {call : LinkCall σ} {ret : LinkReturn σ}
    (returned : context.linkReturn? call = some ret) (failed : ret.outcome = .error error) :
    context.LinkFails call.artifact call.items error := by
  unfold linkReturn? at returned
  split at returned
  · rename_i found after engine
    cases returned
    cases failed
    exact engineLink_fails (congrArg Prod.fst engine)
  · split at returned
    · cases returned
      cases failed
    · contradiction

/-- Whoever waits for a link in a run, it fails with the step that began it, or with what its
start function raised. -/
theorem stepReturn?_fails {state : RunState σ} {ret : LinkReturn σ}
    (returned : context.stepReturn? state = some ret) (failed : ret.outcome = .error error) :
    (∃ artifact items next below, state = .closure (.link artifact items next) below ∧
        context.LinkFails artifact items error) ∨
      ∃ raised, error = .ofEngine raised := by
  unfold stepReturn? at returned
  split at returned
  · exact .inl ⟨_, _, _, _, rfl, linkReturn?_fails returned failed⟩
  · cases returned
    cases failed
  · cases returned
    cases failed
    exact .inr ⟨_, rfl⟩
  · contradiction

/-- A link of which the embedder is told by a step was waiting for its start function. -/
theorem stepReturn?_embedder {state : RunState σ} {ret : LinkReturn σ}
    (returned : context.stepReturn? state = some ret) (isEmbedder : ret.wait = .embedder) :
    (∃ made, ret.outcome = .ok made) ∨ ∃ raised, ret.outcome = .error (.ofEngine raised) := by
  unfold stepReturn? at returned
  split at returned
  · have sameWait := (linkReturn?_eq_some returned).1
    rw [isEmbedder] at sameWait
    contradiction
  · cases returned
    exact .inl ⟨_, rfl⟩
  · cases returned
    exact .inr ⟨_, rfl⟩
  · contradiction

theorem step_told {state : RunState σ} {run : Run σ} {result : Except LinkError InstanceHandle}
    (stepped : context.step state = some run) (told : run.2 = .linked result) :
    (∃ inst, result = .ok inst) ∨ ∃ raised, result = .error (.ofEngine raised) := by
  have lists := step_lists stepped
  generalize returned : context.stepReturn? state = returns at lists
  cases lists with
  | silent same untold =>
      rw [told] at untold
      contradiction
  | returns ret appended handle =>
      cases isWait : ret.wait with
      | closure next below =>
          rw [isWait] at told
          contradiction
      | embedder =>
          rw [isWait] at told
          obtain rfl : ret.result = result := RunState.linked.inj told
          rcases stepReturn?_embedder returned isWait with ⟨made, isOk⟩ | ⟨raised, isError⟩
          · exact .inl ⟨made.1, by rw [LinkReturn.result, isOk]; rfl⟩
          · exact .inr ⟨raised, by rw [LinkReturn.result, isError]; rfl⟩

/-- What the embedder is told after any number of steps was there, or is told after a start
function. -/
theorem run_told {bound : Nat} {context after : Context σ} {state : RunState σ}
    {result : Except LinkError InstanceHandle}
    (ended : run bound context state = (after, .linked result)) :
    state = .linked result ∨ (∃ inst, result = .ok inst) ∨
      ∃ raised, result = .error (.ofEngine raised) := by
  induction bound generalizing context state with
  | zero => exact .inl (congrArg Prod.snd ended)
  | succ bound inductionHypothesis =>
      rw [run] at ended
      cases stepped : context.step state with
      | none =>
          rw [stepped] at ended
          exact .inl (congrArg Prod.snd ended)
      | some next =>
          rw [stepped] at ended
          rcases inductionHypothesis ended with told | later
          · exact .inr (step_told stepped told)
          · exact .inr later

/-- A link of the embedder fails before guest code runs, or with what its start function
raised. -/
theorem link_fails {after : Context σ}
    (answered : context.link artifact items = (.answered (.error error), after)) :
    context.LinkFails artifact items error ∨ ∃ raised, error = .ofEngine raised := by
  rcases run_told (run_of_link answered) with told | ⟨inst, isOk⟩ | ⟨raised, isRaised⟩
  · have lists := context.beginLink_lists artifact items .embedder
    generalize returned : context.linkReturn? ⟨artifact, items, .embedder⟩ = returns at lists
    generalize context.beginLink artifact items .embedder = begun at told lists
    cases lists with
    | silent same untold =>
        rw [told] at untold
        contradiction
    | returns ret appended handle =>
        rw [(linkReturn?_eq_some returned).1] at told
        have failed : ret.result = .error error := RunState.linked.inj told
        unfold LinkReturn.result at failed
        cases outcome : ret.outcome with
        | ok made =>
            rw [outcome] at failed
            contradiction
        | error found =>
            rw [outcome] at failed
            cases failed
            exact .inl (linkReturn?_fails returned outcome)
  · contradiction
  · exact .inr ⟨raised, Except.error.inj isRaised⟩

end Context

end WasmSandbox
