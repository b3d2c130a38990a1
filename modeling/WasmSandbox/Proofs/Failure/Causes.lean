import Mathlib.Data.List.Chain
import WasmSandbox.Failure.Taxonomy

/-!
Contract: what a failure consists of, and what its chain of causes and its text are.

Owns:
- what a failure holds, and the spine of all that it consists of, down to the root;
- the four layers of a spine that rest on what they hold and put a text in front of its text;
- that every other part of a spine forwards the text and the causes of what it holds;
- that the chain of causes has one failure for each layer, and that the text of a failure is
  made of the texts of its layers and the text of the root.

The types of failures hold each other in turn, so a spine can have any length.  What one part
of it does to the text and to the chain is said once, and carried along the spine.

Does not own: where failures are raised, and how they travel
(`WasmSandbox.Proofs.Context.Unwinding`).
-/

namespace WasmSandbox

/-! ## The spine -/

/-- A part of a failure that rests on what it holds. -/
inductive CauseLayer where
  /-- A closure passes on the failure of a nested call. -/
  | reentrant
  /-- A call failed because a closure refused. -/
  | host
  /-- A call failed because a closure broke its contract. -/
  | contract
  /-- A link failed because its start failed. -/
  | trapped
deriving DecidableEq, Repr

/-- What a layer puts in front of the text of what it holds. -/
def CauseLayer.text : CauseLayer → String
  | reentrant => "re-entrant call failed: "
  | host => "host function failed: "
  | contract => "host function broke its result contract: "
  | trapped => "instantiation aborted: "

namespace Failure

/-- What a failure holds, whether it rests on it or only forwards it. -/
def held? : Failure → Option Failure
  | host (.reentrant cause) => some cause
  | call (.typeMismatch found) => some (.mismatch found)
  | call (.trap found) => some (.trap found)
  | call (.host cause) => some (.host cause)
  | call (.contract found) => some (.violation found)
  | link (.trapped cause) => some (.call cause)
  | sandbox (.compile error) => some (.compile error)
  | sandbox (.link error) => some (.link error)
  | sandbox (.call error) => some (.call error)
  | sandbox (.memory error) => some (.memory error)
  | _ => none

/-- The layer that a failure is, if it rests on what it holds. -/
def layer? : Failure → Option CauseLayer
  | host (.reentrant _) => some .reentrant
  | call (.host _) => some .host
  | call (.contract _) => some .contract
  | link (.trapped _) => some .trapped
  | _ => none

theorem sizeOf_held {failure held : Failure} (holds : failure.held? = some held) :
    sizeOf held < sizeOf failure := by
  unfold held? at holds
  split at holds <;> cases holds <;> simp +arith

/-- A failure and all that it holds, the outermost first. -/
def spine (failure : Failure) : List Failure :=
  match _holds : failure.held? with
  | some held => failure :: held.spine
  | none => [failure]
termination_by sizeOf failure
decreasing_by exact sizeOf_held _holds

/-- The layers of a failure, the outermost first. -/
def layers (failure : Failure) : List CauseLayer := failure.spine.filterMap layer?

/-- The last of the causes, or the failure itself if it has none. -/
def root (failure : Failure) : Failure := failure.chain.getLastD failure

variable {failure held : Failure}

/-- A failure adds itself to the spine of what it holds. -/
theorem spine_eq (failure : Failure) :
    failure.spine = failure :: (failure.held?.map spine).getD [] := by
  rw [spine]
  split
  · rename_i held holds
    rw [holds]
    rfl
  · rename_i nothing
    rw [nothing]
    rfl

/-! ## One part of a spine -/

/-- A part that is no layer forwards the text and the causes of what it holds. -/
theorem forwards (holds : failure.held? = some held) (noLayer : failure.layer? = none) :
    failure.message = held.message ∧ failure.cause? = held.cause? ∧
      failure.chain = held.chain := by
  cases failure with
  | call error =>
      cases error with
      | typeMismatch found =>
          cases holds
          exact ⟨rfl, rfl, rfl⟩
      | trap found =>
          cases holds
          exact ⟨rfl, rfl, rfl⟩
      | _ => contradiction
  | sandbox error =>
      cases error with
      | fuelDisabled => contradiction
      | _ =>
          cases holds
          exact ⟨rfl, rfl, rfl⟩
  | host error => cases error <;> contradiction
  | link error => cases error <;> contradiction
  | _ => contradiction

/-- A layer rests on what it holds, and puts its text in front. -/
theorem rests {layer : CauseLayer} (holds : failure.held? = some held)
    (isLayer : failure.layer? = some layer) :
    failure.message = layer.text ++ held.message ∧ failure.cause? = some held ∧
      failure.chain = held :: held.chain := by
  cases failure with
  | host error =>
      cases error with
      | failed message => contradiction
      | reentrant cause =>
          cases holds
          cases isLayer
          exact ⟨rfl, rfl, rfl⟩
  | call error =>
      cases error with
      | host cause =>
          cases holds
          cases isLayer
          exact ⟨rfl, rfl, rfl⟩
      | contract found =>
          cases holds
          cases isLayer
          exact ⟨rfl, rfl, rfl⟩
      | _ => contradiction
  | link error =>
      cases error with
      | trapped cause =>
          cases holds
          cases isLayer
          exact ⟨rfl, rfl, rfl⟩
      | _ => contradiction
  | _ => contradiction

/-- What holds nothing is no layer, and has no causes. -/
theorem bare (nothing : failure.held? = none) :
    failure.layer? = none ∧ failure.cause? = none ∧ failure.chain = [] := by
  cases failure with
  | host error =>
      cases error with
      | failed message => exact ⟨rfl, rfl, rfl⟩
      | reentrant cause => contradiction
  | call error =>
      cases error with
      | foreignHandle => exact ⟨rfl, rfl, rfl⟩
      | internal reason => exact ⟨rfl, rfl, rfl⟩
      | _ => contradiction
  | link error =>
      cases error with
      | trapped cause => contradiction
      | _ => exact ⟨rfl, rfl, rfl⟩
  | sandbox error =>
      cases error with
      | fuelDisabled => exact ⟨rfl, rfl, rfl⟩
      | _ => contradiction
  | _ => exact ⟨rfl, rfl, rfl⟩

/-! ## Along a spine -/

theorem layers_of_forwards (holds : failure.held? = some held)
    (noLayer : failure.layer? = none) : failure.layers = held.layers := by
  rw [layers, spine_eq, holds, List.filterMap_cons_none noLayer]
  rfl

theorem layers_of_rests {layer : CauseLayer} (holds : failure.held? = some held)
    (isLayer : failure.layer? = some layer) : failure.layers = layer :: held.layers := by
  rw [layers, spine_eq, holds, List.filterMap_cons_some isLayer]
  rfl

theorem layers_of_bare (nothing : failure.held? = none) : failure.layers = [] := by
  rw [layers, spine_eq, nothing, List.filterMap_cons_none (bare nothing).1]
  rfl

/-- A property of failures holds of all of them if it goes from what is held to what holds
it, past a layer or not. -/
theorem spine_induction {motive : Failure → Prop}
    (root : ∀ failure, failure.held? = none → motive failure)
    (forwarding : ∀ failure held, failure.held? = some held → failure.layer? = none →
      motive held → motive failure)
    (resting : ∀ failure held layer, failure.held? = some held → failure.layer? = some layer →
      motive held → motive failure)
    (failure : Failure) : motive failure := by
  induction failure using spine.induct with
  | case1 failure held holds inductionHypothesis =>
      cases isLayer : failure.layer? with
      | none => exact forwarding failure held holds isLayer inductionHypothesis
      | some layer => exact resting failure held layer holds isLayer inductionHypothesis
  | case2 failure nothing => exact root failure nothing

/-- The chain has one failure for each layer. -/
theorem chain_length (failure : Failure) : failure.chain.length = failure.layers.length := by
  induction failure using spine_induction with
  | root failure nothing =>
      rw [(bare nothing).2.2, layers_of_bare nothing]
      rfl
  | forwarding failure held holds noLayer inductionHypothesis =>
      rw [(forwards holds noLayer).2.2, layers_of_forwards holds noLayer, inductionHypothesis]
  | resting failure held layer holds isLayer inductionHypothesis =>
      rw [(rests holds isLayer).2.2, layers_of_rests holds isLayer, List.length_cons,
        List.length_cons, inductionHypothesis]

/-- Behind a layer the root is the same. -/
theorem root_of_rests {layer : CauseLayer} (holds : failure.held? = some held)
    (isLayer : failure.layer? = some layer) : failure.root = held.root := by
  rw [root, (rests holds isLayer).2.2, List.getLastD_cons, root]

/-- A part that is no layer has the root of what it holds, or both are roots. -/
theorem root_of_forwards (holds : failure.held? = some held) (noLayer : failure.layer? = none) :
    failure.root = held.root ∨ failure.root = failure ∧ held.root = held := by
  rw [root, root, (forwards holds noLayer).2.2]
  cases held.chain with
  | nil => exact .inr ⟨rfl, rfl⟩
  | cons cause causes => exact .inl rfl

/-- The chain is what one finds by going from each failure to its cause. -/
theorem chain_follows (failure : Failure) :
    (failure :: failure.chain).IsChain fun outer inner => outer.cause? = some inner := by
  induction failure using spine_induction with
  | root failure nothing =>
      rw [(bare nothing).2.2]
      exact .singleton _
  | forwarding failure held holds noLayer inductionHypothesis =>
      obtain ⟨-, sameCause, sameChain⟩ := forwards holds noLayer
      rw [sameChain]
      cases isChain : held.chain with
      | nil => exact .singleton _
      | cons cause causes =>
          rw [isChain, List.isChain_cons_cons] at inductionHypothesis
          obtain ⟨isCause, further⟩ := inductionHypothesis
          exact List.isChain_cons_cons.2 ⟨sameCause.trans isCause, further⟩
  | resting failure held layer holds isLayer inductionHypothesis =>
      obtain ⟨-, isCause, isChain⟩ := rests holds isLayer
      rw [isChain]
      exact List.isChain_cons_cons.2 ⟨isCause, inductionHypothesis⟩

/-- The root has no cause. -/
theorem root_cause? (failure : Failure) : failure.root.cause? = none := by
  induction failure using spine_induction with
  | root failure nothing =>
      obtain ⟨-, noCause, noChain⟩ := bare nothing
      rw [root, noChain]
      exact noCause
  | forwarding failure held holds noLayer inductionHypothesis =>
      rcases root_of_forwards holds noLayer with same | ⟨isRoot, heldIsRoot⟩
      · rw [same, inductionHypothesis]
      · rw [heldIsRoot] at inductionHypothesis
        rw [isRoot, (forwards holds noLayer).2.1, inductionHypothesis]
  | resting failure held layer holds isLayer inductionHypothesis =>
      rw [root_of_rests holds isLayer, inductionHypothesis]

/-- The text of a failure ends with the text of its cause, behind that of its first layer. -/
theorem message_of_cause (failure : Failure) {cause : Failure}
    (isCause : failure.cause? = some cause) : ∃ layer : CauseLayer,
      failure.layers = layer :: cause.layers ∧
        failure.message = layer.text ++ cause.message := by
  induction failure using spine_induction with
  | root failure nothing =>
      rw [(bare nothing).2.1] at isCause
      contradiction
  | forwarding failure held holds noLayer inductionHypothesis =>
      obtain ⟨sameMessage, sameCause, -⟩ := forwards holds noLayer
      rw [sameMessage, layers_of_forwards holds noLayer]
      exact inductionHypothesis (sameCause.symm.trans isCause)
  | resting failure held layer holds isLayer inductionHypothesis =>
      obtain ⟨message, heldIsCause, -⟩ := rests holds isLayer
      cases heldIsCause.symm.trans isCause
      exact ⟨layer, layers_of_rests holds isLayer, message⟩

/-- The text of a failure is made of those of its layers, in their order, and of its root. -/
theorem message_eq (failure : Failure) :
    failure.message =
      failure.layers.foldr (fun layer rest => layer.text ++ rest) failure.root.message := by
  induction failure using spine_induction with
  | root failure nothing =>
      rw [layers_of_bare nothing, root, (bare nothing).2.2]
      rfl
  | forwarding failure held holds noLayer inductionHypothesis =>
      have sameMessage := (forwards holds noLayer).1
      have sameRoot : failure.root.message = held.root.message := by
        rcases root_of_forwards holds noLayer with same | ⟨isRoot, heldIsRoot⟩
        · rw [same]
        · rw [isRoot, heldIsRoot, sameMessage]
      rw [sameMessage, sameRoot, layers_of_forwards holds noLayer, ← inductionHypothesis]
  | resting failure held layer holds isLayer inductionHypothesis =>
      rw [(rests holds isLayer).1, layers_of_rests holds isLayer, List.foldr_cons,
        root_of_rests holds isLayer, ← inductionHypothesis]

/-! ## Every failure -/

/-- What the chain of causes and the text of a failure are. -/
structure TracesCauses (failure : Failure) : Prop where
  /-- Each failure of the chain is the cause of the one before it, and the last one has none. -/
  follows : (failure :: failure.chain).IsChain fun outer inner => outer.cause? = some inner
  ends : failure.root.cause? = none
  /-- The chain has one failure for each layer on the spine. -/
  length : failure.chain.length = failure.layers.length
  /-- Every other part of the spine has the text and the causes of what it holds. -/
  forwards : ∀ outer ∈ failure.spine, ∀ held, outer.held? = some held → outer.layer? = none →
    outer.message = held.message ∧ outer.cause? = held.cause? ∧ outer.chain = held.chain
  /-- The text of each failure of the chain ends with that of its cause, behind the text of
  the layer between them. -/
  nested : ∀ outer ∈ failure :: failure.chain, ∀ cause, outer.cause? = some cause →
    ∃ layer : CauseLayer, outer.layers = layer :: cause.layers ∧
      outer.message = layer.text ++ cause.message
  /-- The text of the failure is that of its root behind those of all layers, in order. -/
  message : failure.message =
    failure.layers.foldr (fun layer rest => layer.text ++ rest) failure.root.message

/-- Whatever a failure consists of, its chain has one cause for each layer, and its text ends
with those of its causes. -/
theorem tracesCauses (failure : Failure) : failure.TracesCauses where
  follows := failure.chain_follows
  ends := failure.root_cause?
  length := failure.chain_length
  forwards := fun _ _ _ holds noLayer => Failure.forwards holds noLayer
  nested := fun outer _ _ isCause => outer.message_of_cause isCause
  message := failure.message_eq

/-- The refusal of a nested call, seen from outside. -/
example :
    (sandbox (.call (.host (.reentrant (.call (.host (.failed "no"))))))).message =
      "host function failed: re-entrant call failed: host function failed: no" := by
  rfl

end Failure

end WasmSandbox
