import Mathlib.Data.Set.Card
import WasmSandbox.Proofs.Environment.Cache

/-!
Contract: which artifact an environment hands out and keeps, over all that happens to it.

Owns:
- the history of an environment: each act, with the environment before it;
- artifacts that are handed out by a compilation, and acts that drop them;
- that an artifact is handed out again, and can be evicted, exactly until it is dropped;
- how many artifacts are kept.

An input may be compiled, dropped and compiled again, so artifacts of the same digest exist
side by side.  They are told apart by their serial numbers, which only grow: an artifact
that was dropped is never kept again.

An environment and its clones are one environment, to which all their acts happen in turn.

Does not own: what an artifact shows (`WasmSandbox.Proofs.Environment.Cache`).
-/

namespace WasmSandbox

namespace Artifact

theorem same_iff (one other : Artifact) :
    one.same other = true ↔
      one.environment = other.environment ∧ one.serial = other.serial := by
  simp [same]

theorem same_self (artifact : Artifact) : artifact.same artifact = true :=
  (same_iff ..).2 ⟨rfl, rfl⟩

theorem same_trans {one other third : Artifact} (first : one.same other = true)
    (second : other.same third = true) : one.same third = true := by
  rw [same_iff] at *
  exact ⟨first.1.trans second.1, first.2.trans second.2⟩

end Artifact

namespace Environment

/-! ## Histories -/

/-- What happens to an environment: each act with the environment before it, in order. -/
def history (environment : Environment) : List CacheAct → List (Environment × CacheAct)
  | [] => []
  | act :: acts => (environment, act) :: (environment.act act).history acts

/-- The act compiles the input, and hands out the artifact. -/
def Gives (happened : Environment × CacheAct) (input : List UInt8) (artifact : Artifact) : Prop :=
  happened.2 = .compile input ∧ ∃ next, happened.1.compile input = .ok (artifact, next)

/-- The act clears the cache, or evicts the artifact with success. -/
def Drops (happened : Environment × CacheAct) (artifact : Artifact) : Prop :=
  happened.2 = .clear ∨ ∃ copy, happened.2 = .evict copy ∧ copy.same artifact = true ∧
    (happened.1.evict copy).1 = true

/-- The artifact was handed out for the input, and was not dropped since. -/
def Lasts (environment : Environment) (acts : List CacheAct) (input : List UInt8)
    (artifact : Artifact) : Prop :=
  ∃ before happened since, environment.history acts = before ++ happened :: since ∧
    Gives happened input artifact ∧ ∀ later ∈ since, ¬Drops later artifact

variable {environment : Environment} {artifact : Artifact} {input : List UInt8}

theorem after_cons (environment : Environment) (act : CacheAct) (acts : List CacheAct) :
    environment.after (act :: acts) = (environment.act act).after acts :=
  rfl

theorem after_append (environment : Environment) (earlier later : List CacheAct) :
    environment.after (earlier ++ later) = (environment.after earlier).after later :=
  List.foldl_append

theorem history_append (environment : Environment) (earlier later : List CacheAct) :
    environment.history (earlier ++ later) =
      environment.history earlier ++ (environment.after earlier).history later := by
  induction earlier generalizing environment with
  | nil => rfl
  | cons act earlier inductionHypothesis =>
      rw [List.cons_append, history, inductionHypothesis]
      rfl

/-- Where a history splits, so do the acts. -/
theorem history_split {acts : List CacheAct} {before since : List (Environment × CacheAct)}
    {happened : Environment × CacheAct}
    (split : environment.history acts = before ++ happened :: since) :
    ∃ earlier act later, acts = earlier ++ act :: later ∧
      happened = (environment.after earlier, act) ∧
        since = ((environment.after earlier).act act).history later := by
  induction acts generalizing environment before with
  | nil => simp [history] at split
  | cons act acts inductionHypothesis =>
      rw [history] at split
      cases before with
      | nil =>
          obtain ⟨isFirst, isRest⟩ := List.cons.inj split
          exact ⟨[], act, acts, rfl, isFirst.symm, isRest.symm⟩
      | cons first before =>
          obtain ⟨earlier, next, later, rfl, isHappened, isSince⟩ :=
            inductionHypothesis (List.cons.inj split).2
          exact ⟨act :: earlier, next, later, rfl, isHappened, isSince⟩

/-! ## What a compilation hands out -/

/-- The environment with one more artifact made, which is kept if artifacts are. -/
def noting (environment : Environment) (artifact : Artifact) : Environment :=
  { environment with
    nextSerial := environment.nextSerial + 1
    cache :=
      if environment.config.cacheArtifacts then (artifact.digest, artifact) :: environment.cache
      else environment.cache }

theorem mem_of_mem_noting {entry : List UInt8 × Artifact}
    (isKept : entry ∈ (environment.noting artifact).cache) :
    entry = (artifact.digest, artifact) ∨ entry ∈ environment.cache := by
  simp only [noting] at isKept
  split at isKept
  · exact List.mem_cons.1 isKept
  · exact .inr isKept

/-- What a compilation comes to: the artifact that is kept, or one with the next serial
number. -/
inductive Served (environment : Environment) (input : List UInt8) :
    Except CompileError (Artifact × Environment) → Prop where
  | kept {artifact : Artifact}
      (found : environment.cached? (Blake3.digest input) = some artifact) :
      Served environment input (.ok (artifact, environment))
  | made {artifact : Artifact} (absent : environment.cached? (Blake3.digest input) = none)
      (own : artifact.environment = environment.id)
      (serial : artifact.serial = environment.nextSerial)
      (digest : artifact.digest = Blake3.digest input) :
      Served environment input (.ok (artifact, environment.noting artifact))
  | failed {error : CompileError} (absent : environment.cached? (Blake3.digest input) = none) :
      Served environment input (.error error)

theorem compileFresh_eq_ok {digest : List UInt8}
    (made : environment.compileFresh input digest = .ok artifact) :
    artifact.environment = environment.id ∧ artifact.serial = environment.nextSerial ∧
      artifact.digest = digest := by
  unfold compileFresh at made
  cases read : Wasm.Module.ofBytes (features environment.config) input with
  | error diagnostic =>
      rw [read] at made
      contradiction
  | ok module =>
      simp only [read, bind, Except.bind, pure, Except.pure] at made
      split at made
      · cases made
        exact ⟨rfl, rfl, rfl⟩
      · contradiction

theorem compile_served (environment : Environment) (input : List UInt8) :
    Served environment input (environment.compile input) := by
  unfold compile
  simp only
  cases found : environment.cached? (Blake3.digest input) with
  | some artifact => exact .kept found
  | none =>
      cases made : environment.compileFresh input (Blake3.digest input) with
      | error error => exact .failed found
      | ok artifact =>
          obtain ⟨own, serial, digest⟩ := compileFresh_eq_ok made
          have served := Served.made found own serial digest
          unfold noting at served
          show Served environment input (if _ then _ else _)
          split
          · rename_i keeping
            rw [if_pos keeping, digest] at served
            exact served
          · rename_i discarding
            rw [if_neg discarding] at served
            exact served

/-! ## Artifacts that are kept -/

/-- What is kept is in order: each artifact is one of the environment's own, under its
digest, and no two are kept under one digest or have one serial number. -/
structure Tidy (environment : Environment) : Prop where
  digest : ∀ entry ∈ environment.cache, entry.2.digest = entry.1
  own : ∀ entry ∈ environment.cache, entry.2.environment = environment.id
  numbered : ∀ entry ∈ environment.cache, entry.2.serial < environment.nextSerial
  keys : (environment.cache.map Prod.fst).Nodup
  serials : ∀ one ∈ environment.cache, ∀ other ∈ environment.cache,
    one.2.serial = other.2.serial → one = other

/-- The artifact was handed out by the environment. -/
def Knows (environment : Environment) (artifact : Artifact) : Prop :=
  artifact.environment = environment.id ∧ artifact.serial < environment.nextSerial

/-- An artifact with the next serial number is none that was handed out. -/
theorem Knows.differs_of_serial (knows : environment.Knows artifact) {made : Artifact}
    (serial : made.serial = environment.nextSerial) : made.same artifact = false := by
  rw [Bool.eq_false_iff, Ne, Artifact.same_iff]
  rintro ⟨-, sameSerial⟩
  have below := knows.2
  omega

def Keeps (environment : Environment) (artifact : Artifact) : Prop :=
  (artifact.digest, artifact) ∈ environment.cache

/-- No artifact that is kept is this one. -/
def Lacks (environment : Environment) (artifact : Artifact) : Prop :=
  ∀ entry ∈ environment.cache, entry.2.same artifact = false

theorem Keeps.not_lacks (keeps : environment.Keeps artifact) : ¬environment.Lacks artifact := by
  intro lacks
  have differs := lacks _ keeps
  rw [artifact.same_self] at differs
  contradiction

/-- Without repeated keys, what is found is what is there. -/
theorem Tidy.cached?_eq_some_iff (tidy : environment.Tidy) {digest : List UInt8} :
    environment.cached? digest = some artifact ↔
      environment.config.cacheArtifacts = true ∧ (digest, artifact) ∈ environment.cache := by
  unfold cached?
  by_cases keeping : environment.config.cacheArtifacts = true
  · rw [if_pos keeping]
    refine ⟨fun found => ⟨keeping, ?_⟩, fun member => ?_⟩
    · obtain ⟨before, behind, isCache, -⟩ := List.lookup_eq_some_iff.1 found
      rw [isCache]
      exact List.mem_append_right _ (List.mem_cons_self ..)
    · obtain ⟨before, behind, isCache⟩ := List.append_of_mem member.2
      refine List.lookup_eq_some_iff.2 ⟨before, behind, isCache, ?_⟩
      have keys := tidy.keys
      rw [isCache, List.map_append, List.map_cons] at keys
      intro entry inFront
      have apart := (List.nodup_append.1 keys).2.2 entry.1
        (List.mem_map_of_mem inFront) digest (List.mem_cons_self ..)
      simpa using Ne.symm apart
  · rw [if_neg keeping]
    simp [keeping]

theorem Tidy.cached?_of_keeps (tidy : environment.Tidy)
    (keeping : environment.config.cacheArtifacts = true) (keeps : environment.Keeps artifact) :
    environment.cached? artifact.digest = some artifact :=
  tidy.cached?_eq_some_iff.2 ⟨keeping, keeps⟩

/-- What is found under a digest is kept as the artifact of that digest. -/
theorem Tidy.keeps_of_cached? (tidy : environment.Tidy) {digest : List UInt8}
    (found : environment.cached? digest = some artifact) :
    artifact.digest = digest ∧ environment.Keeps artifact := by
  have member := (tidy.cached?_eq_some_iff.1 found).2
  have isDigest : artifact.digest = digest := tidy.digest _ member
  refine ⟨isDigest, ?_⟩
  rw [Keeps, isDigest]
  exact member

/-- No artifact of another environment is kept. -/
theorem Tidy.lacks_of_foreign (tidy : environment.Tidy)
    (foreign : artifact.environment ≠ environment.id) : environment.Lacks artifact := by
  intro entry isKept
  rw [Bool.eq_false_iff, Ne, Artifact.same_iff]
  rintro ⟨sameEnvironment, -⟩
  rw [tidy.own entry isKept] at sameEnvironment
  exact foreign sameEnvironment.symm

theorem Tidy.knows_of_keeps (tidy : environment.Tidy) (keeps : environment.Keeps artifact) :
    environment.Knows artifact :=
  ⟨tidy.own _ keeps, tidy.numbered _ keeps⟩

/-- Of two artifacts that are kept, one is the other only if they are equal. -/
theorem Tidy.eq_of_same (tidy : environment.Tidy) {other : Artifact}
    (keeps : environment.Keeps artifact) (keepsOther : environment.Keeps other)
    (same : other.same artifact = true) : other = artifact := by
  have equal := tidy.serials _ keepsOther _ keeps ((Artifact.same_iff ..).1 same).2
  exact (Prod.mk.inj equal).2

/-- Dropping artifacts leaves the others in order. -/
theorem Tidy.of_sublist (tidy : environment.Tidy) {left : Environment}
    (id : left.id = environment.id) (next : left.nextSerial = environment.nextSerial)
    (fewer : left.cache.Sublist environment.cache) : left.Tidy where
  digest := fun entry member => tidy.digest entry (fewer.mem member)
  own := fun entry member => id ▸ tidy.own entry (fewer.mem member)
  numbered := fun entry member => next ▸ tidy.numbered entry (fewer.mem member)
  keys := (fewer.map Prod.fst).nodup tidy.keys
  serials := fun one isKept other isKeptToo =>
    tidy.serials one (fewer.mem isKept) other (fewer.mem isKeptToo)

/-- An artifact that was just made can be kept: nothing has its digest or its serial
number. -/
theorem Tidy.noting (tidy : environment.Tidy) (own : artifact.environment = environment.id)
    (serial : artifact.serial = environment.nextSerial)
    (absent : environment.cached? artifact.digest = none) : (environment.noting artifact).Tidy := by
  have older : ∀ entry ∈ environment.cache, entry.2.serial < environment.nextSerial + 1 :=
    fun entry member => Nat.lt_succ_of_lt (tidy.numbered entry member)
  unfold Environment.noting
  by_cases keeping : environment.config.cacheArtifacts = true
  · simp only [if_pos keeping]
    refine ⟨?digest, ?own, ?numbered, ?keys, ?serials⟩
    case digest => exact List.forall_mem_cons.2 ⟨rfl, tidy.digest⟩
    case own => exact List.forall_mem_cons.2 ⟨own, tidy.own⟩
    case numbered => exact List.forall_mem_cons.2 ⟨by simp [serial], older⟩
    case keys =>
      refine List.nodup_cons.2 ⟨?_, tidy.keys⟩
      intro member
      obtain ⟨entry, isKept, sameKey⟩ := List.mem_map.1 member
      have isEntry : (artifact.digest, entry.2) = entry := Prod.ext sameKey.symm rfl
      have found : environment.cached? artifact.digest = some entry.2 :=
        tidy.cached?_eq_some_iff.2 ⟨keeping, isEntry ▸ isKept⟩
      rw [absent] at found
      contradiction
    case serials =>
      have newest : ∀ entry ∈ environment.cache, entry.2.serial ≠ artifact.serial := by
        intro entry isKept
        have below := tidy.numbered entry isKept
        omega
      intro one isKept other isKeptToo same
      rcases List.mem_cons.1 isKept with rfl | isOld
      · rcases List.mem_cons.1 isKeptToo with rfl | isOldToo
        · rfl
        · exact absurd same.symm (newest other isOldToo)
      · rcases List.mem_cons.1 isKeptToo with rfl | isOldToo
        · exact absurd same (newest one isOld)
        · exact tidy.serials one isOld other isOldToo same
  · simp only [if_neg keeping]
    exact ⟨tidy.digest, tidy.own, older, tidy.keys, tidy.serials⟩

/-! ## Eviction -/

/-- What an eviction comes to: the artifact is the one that is kept, and everything under
its digest goes, or nothing changes. -/
theorem evict_cases (environment : Environment) (artifact : Artifact) :
    (∃ kept, environment.cached? artifact.digest = some kept ∧ kept.same artifact = true ∧
        environment.evict artifact = (true, { environment with
          cache := environment.cache.filter fun entry => entry.1 ≠ artifact.digest })) ∨
      (∀ kept, environment.cached? artifact.digest = some kept → kept.same artifact = false) ∧
        environment.evict artifact = (false, environment) := by
  unfold evict
  cases found : environment.cached? artifact.digest with
  | none => exact .inr ⟨nofun, rfl⟩
  | some kept =>
      cases same : kept.same artifact with
      | true => exact .inl ⟨kept, rfl, same, by simp [same]⟩
      | false =>
          refine .inr ⟨?_, by simp [same]⟩
          rintro other ⟨rfl⟩
          exact same

/-- An artifact that is kept is evicted. -/
theorem Tidy.evict_of_keeps (tidy : environment.Tidy)
    (keeping : environment.config.cacheArtifacts = true) (keeps : environment.Keeps artifact) :
    (environment.evict artifact).1 = true := by
  rcases environment.evict_cases artifact with ⟨kept, -, -, evicted⟩ | ⟨differs, -⟩
  · rw [evicted]
  · have differs := differs artifact (tidy.cached?_of_keeps keeping keeps)
    rw [artifact.same_self] at differs
    contradiction

/-- An artifact that is not kept is not evicted. -/
theorem Tidy.evict_of_lacks (tidy : environment.Tidy) (lacks : environment.Lacks artifact) :
    environment.evict artifact = (false, environment) := by
  rcases environment.evict_cases artifact with ⟨kept, found, same, -⟩ | ⟨-, refused⟩
  · rw [lacks _ (tidy.keeps_of_cached? found).2] at same
    contradiction
  · exact refused

/-- An eviction that is refused changes nothing. -/
theorem evict_eq_of_refused (refused : (environment.evict artifact).1 = false) :
    (environment.evict artifact).2 = environment := by
  rcases environment.evict_cases artifact with ⟨_, -, -, evicted⟩ | ⟨-, same⟩
  · rw [evicted] at refused
    contradiction
  · rw [same]

/-- An eviction with success takes the artifact under one digest away, and leaves the
others. -/
theorem Tidy.evict_removes (tidy : environment.Tidy)
    (evicted : (environment.evict artifact).1 = true) :
    (∀ digest, (environment.evict artifact).2.cached? digest =
        if digest = artifact.digest then none else environment.cached? digest) ∧
      (environment.evict artifact).2.cachedArtifacts + 1 = environment.cachedArtifacts := by
  rcases environment.evict_cases artifact with ⟨kept, found, -, result⟩ | ⟨-, refused⟩
  · have member := (tidy.cached?_eq_some_iff.1 found).2
    rw [result]
    refine ⟨?_, ?_⟩
    · intro digest
      have fewer : ({ environment with
          cache := environment.cache.filter fun entry => entry.1 ≠ artifact.digest } :
            Environment).Tidy := tidy.of_sublist rfl rfl List.filter_sublist
      refine Option.ext fun other => ?_
      rw [fewer.cached?_eq_some_iff]
      by_cases gone : digest = artifact.digest
      · simp [gone]
      · rw [if_neg gone, tidy.cached?_eq_some_iff]
        simp [List.mem_filter, gone]
    · -- One entry has the digest, because no key occurs twice.
      have once : environment.cache.countP (fun entry => entry.1 = artifact.digest) = 1 := by
        have counted := List.count_eq_one_of_mem tidy.keys
          (List.mem_map_of_mem (f := Prod.fst) member)
        rw [List.count_eq_countP, List.countP_map] at counted
        rw [← counted]
        exact List.countP_congr fun entry _ => by simp
      have whole := environment.cache.length_eq_countP_add_countP
        fun entry => entry.1 = artifact.digest
      simp only [cachedArtifacts, ← List.countP_eq_length_filter]
      simp only [decide_not, decide_eq_true_eq] at *
      omega
  · rw [refused] at evicted
    contradiction

/-! ## What an act does to an artifact -/

/-- All that an act can come to. -/
inductive Acted (environment : Environment) : CacheAct → Environment → Prop where
  /-- The artifact of the input is kept already, or the input does not compile. -/
  | idle {input : List UInt8} : Acted environment (.compile input) environment
  | made {input : List UInt8} {artifact : Artifact}
      (gives : Gives (environment, .compile input) input artifact)
      (absent : environment.cached? artifact.digest = none)
      (own : artifact.environment = environment.id)
      (serial : artifact.serial = environment.nextSerial)
      (digest : artifact.digest = Blake3.digest input) :
      Acted environment (.compile input) (environment.noting artifact)
  | evicted {copy kept : Artifact} (found : environment.cached? copy.digest = some kept)
      (isCopy : kept.same copy = true) (succeeds : (environment.evict copy).1 = true) :
      Acted environment (.evict copy) { environment with
        cache := environment.cache.filter fun entry => entry.1 ≠ copy.digest }
  | refused {copy : Artifact} (fails : (environment.evict copy).1 = false) :
      Acted environment (.evict copy) environment
  | cleared : Acted environment .clear { environment with cache := [] }

theorem act_acted (environment : Environment) (act : CacheAct) :
    Acted environment act (environment.act act) := by
  cases act with
  | compile input =>
      have served := environment.compile_served input
      cases compiled : environment.compile input with
      | error error =>
          rw [act_of_error compiled]
          exact .idle
      | ok outcome =>
          rw [act_of_ok compiled]
          rw [compiled] at served
          cases served with
          | kept found => exact .idle
          | made absent own serial digest =>
              exact .made ⟨rfl, _, compiled⟩ (digest ▸ absent) own serial digest
  | evict copy =>
      simp only [Environment.act]
      rcases environment.evict_cases copy with ⟨kept, found, isCopy, evicted⟩ | ⟨-, refused⟩
      · have succeeds : (environment.evict copy).1 = true := by rw [evicted]
        rw [evicted]
        exact .evicted found isCopy succeeds
      · have fails : (environment.evict copy).1 = false := by rw [refused]
        rw [refused]
        exact .refused fails
  | clear => exact .cleared

theorem act_id (environment : Environment) (act : CacheAct) :
    (environment.act act).id = environment.id := by
  have acted := environment.act_acted act
  generalize environment.act act = next at acted
  cases acted <;> rfl

theorem act_config (environment : Environment) (act : CacheAct) :
    (environment.act act).config = environment.config := by
  have acted := environment.act_acted act
  generalize environment.act act = next at acted
  cases acted <;> rfl

/-- Whatever happens, what is kept stays in order. -/
theorem Tidy.act (tidy : environment.Tidy) (act : CacheAct) : (environment.act act).Tidy := by
  have acted := environment.act_acted act
  generalize environment.act act = next at acted
  cases acted with
  | idle => exact tidy
  | made gives absent own serial digest => exact tidy.noting own serial absent
  | evicted found isCopy succeeds => exact tidy.of_sublist rfl rfl List.filter_sublist
  | refused fails => exact tidy
  | cleared => exact tidy.of_sublist rfl rfl (List.nil_sublist _)

theorem Tidy.after (tidy : environment.Tidy) (acts : List CacheAct) :
    (environment.after acts).Tidy := by
  induction acts generalizing environment with
  | nil => exact tidy
  | cons act acts inductionHypothesis => exact inductionHypothesis (tidy.act act)

theorem Knows.act (knows : environment.Knows artifact) (act : CacheAct) :
    (environment.act act).Knows artifact := by
  refine ⟨knows.1.trans (environment.act_id act).symm, ?_⟩
  have below := knows.2
  have acted := environment.act_acted act
  generalize environment.act act = next at acted
  cases acted with
  | made gives absent own serial digest => exact Nat.lt_succ_of_lt below
  | _ => exact below

/-- An artifact that was dropped is never kept again: a new one has another serial number. -/
theorem Lacks.act (lacks : environment.Lacks artifact) (knows : environment.Knows artifact)
    (act : CacheAct) : (environment.act act).Lacks artifact := by
  have acted := environment.act_acted act
  generalize environment.act act = next at acted
  cases acted with
  | idle => exact lacks
  | made gives absent own serial digest =>
      intro entry isKept
      rcases mem_of_mem_noting isKept with rfl | isOld
      · exact knows.differs_of_serial serial
      · exact lacks entry isOld
  | evicted found isCopy succeeds =>
      exact fun entry isKept => lacks entry (List.mem_filter.1 isKept).1
  | refused fails => exact lacks
  | cleared => exact nofun

/-- An artifact that is kept goes with the act that drops it, and stays with every other
one. -/
theorem Tidy.act_keeps (tidy : environment.Tidy) (keeps : environment.Keeps artifact)
    (act : CacheAct) :
    (environment.act act).Keeps artifact ∧ ¬Drops (environment, act) artifact ∨
      (environment.act act).Lacks artifact ∧ Drops (environment, act) artifact := by
  have acted := environment.act_acted act
  generalize environment.act act = next at acted
  cases acted with
  | idle => exact .inl ⟨keeps, by simp [Drops]⟩
  | made gives absent own serial digest =>
      refine .inl ⟨?_, by simp [Drops]⟩
      simp only [Keeps, Environment.noting]
      split
      · exact List.mem_cons_of_mem _ keeps
      · exact keeps
  | @evicted copy kept found isCopy succeeds =>
      obtain ⟨isDigest, keepsFound⟩ := tidy.keeps_of_cached? found
      cases same : copy.same artifact with
      | true =>
          refine .inr ⟨?_, .inr ⟨copy, rfl, same, succeeds⟩⟩
          -- The artifact that was found under the digest is this one, and it is gone.
          have isKept := tidy.eq_of_same keeps keepsFound (Artifact.same_trans isCopy same)
          intro entry remains
          obtain ⟨member, otherKey⟩ := List.mem_filter.1 remains
          rw [Bool.eq_false_iff]
          intro sameEntry
          have equal := tidy.serials entry member _ keeps ((Artifact.same_iff ..).1 sameEntry).2
          rw [equal, ← isKept] at otherKey
          simp [isDigest] at otherKey
      | false =>
          refine .inl ⟨List.mem_filter.2 ⟨keeps, ?_⟩, ?_⟩
          · -- Under the digest of the copy is another artifact.
            simp only [ne_eq, decide_eq_true_eq]
            intro sameDigest
            have isKept : kept = artifact := by
              have equal := tidy.cached?_of_keeps (tidy.cached?_eq_some_iff.1 found).1 keeps
              rw [sameDigest, found] at equal
              exact Option.some.inj equal
            rw [isKept, Artifact.same_iff] at isCopy
            rw [Bool.eq_false_iff, Ne, Artifact.same_iff] at same
            exact same ⟨isCopy.1.symm, isCopy.2.symm⟩
          · rintro (isClear | ⟨other, isEvict, isOther, -⟩)
            · contradiction
            · cases isEvict
              rw [same] at isOther
              contradiction
  | refused fails =>
      refine .inl ⟨keeps, ?_⟩
      rintro (isClear | ⟨other, isEvict, -, succeeds⟩)
      · contradiction
      · cases isEvict
        rw [fails] at succeeds
        contradiction
  | cleared => exact .inr ⟨nofun, .inl rfl⟩

/-- An artifact that is handed out is kept from then on, under the digest of the input. -/
theorem Tidy.keeps_of_gives (tidy : environment.Tidy)
    (keeping : environment.config.cacheArtifacts = true) {act : CacheAct}
    (gives : Gives (environment, act) input artifact) :
    (environment.act act).Keeps artifact ∧ artifact.digest = Blake3.digest input := by
  obtain ⟨rfl, next, compiled⟩ := gives
  have served := environment.compile_served input
  simp only [Environment.act]
  simp only at compiled
  rw [compiled] at served ⊢
  cases served with
  | kept found =>
      obtain ⟨isDigest, keeps⟩ := tidy.keeps_of_cached? found
      exact ⟨keeps, isDigest⟩
  | made absent own serial digest =>
      refine ⟨?_, digest⟩
      simp [Keeps, Environment.noting, keeping]

/-- An artifact that is handed out is known from then on, whether or not it is kept. -/
theorem Tidy.knows_of_gives (tidy : environment.Tidy) {act : CacheAct}
    (gives : Gives (environment, act) input artifact) : (environment.act act).Knows artifact := by
  obtain ⟨rfl, next, compiled⟩ := gives
  have served := environment.compile_served input
  simp only [Environment.act]
  simp only at compiled
  rw [compiled] at served ⊢
  cases served with
  | kept found => exact tidy.knows_of_keeps (tidy.keeps_of_cached? found).2
  | made absent own serial digest => exact ⟨own, serial ▸ Nat.lt_succ_self _⟩

/-! ## What a history does to an artifact -/

theorem after_config (environment : Environment) (acts : List CacheAct) :
    (environment.after acts).config = environment.config := by
  induction acts generalizing environment with
  | nil => rfl
  | cons act acts inductionHypothesis =>
      exact (inductionHypothesis _).trans (environment.act_config act)

theorem after_id (environment : Environment) (acts : List CacheAct) :
    (environment.after acts).id = environment.id := by
  induction acts generalizing environment with
  | nil => rfl
  | cons act acts inductionHypothesis =>
      exact (inductionHypothesis _).trans (environment.act_id act)

theorem Knows.after (knows : environment.Knows artifact) (acts : List CacheAct) :
    (environment.after acts).Knows artifact := by
  induction acts generalizing environment with
  | nil => exact knows
  | cons act acts inductionHypothesis => exact inductionHypothesis (knows.act act)

theorem Lacks.after (lacks : environment.Lacks artifact) (knows : environment.Knows artifact)
    (acts : List CacheAct) : (environment.after acts).Lacks artifact := by
  induction acts generalizing environment with
  | nil => exact lacks
  | cons act acts inductionHypothesis =>
      exact inductionHypothesis (lacks.act knows act) (knows.act act)

/-- An artifact that is kept at first is kept to the end exactly if no act drops it. -/
theorem Tidy.after_keeps (tidy : environment.Tidy) (keeps : environment.Keeps artifact)
    (acts : List CacheAct) :
    (environment.after acts).Keeps artifact ∧
        (∀ later ∈ environment.history acts, ¬Drops later artifact) ∨
      (environment.after acts).Lacks artifact ∧
        ∃ later ∈ environment.history acts, Drops later artifact := by
  induction acts generalizing environment with
  | nil => exact .inl ⟨keeps, by simp [history]⟩
  | cons act acts inductionHypothesis =>
      rcases tidy.act_keeps keeps act with ⟨stays, undropped⟩ | ⟨lacks, dropped⟩
      · rcases inductionHypothesis (tidy.act act) stays with ⟨kept, none⟩ | ⟨lacks, later⟩
        · exact .inl ⟨kept, List.forall_mem_cons.2 ⟨undropped, none⟩⟩
        · obtain ⟨happened, member, drops⟩ := later
          exact .inr ⟨lacks, happened, List.mem_cons_of_mem _ member, drops⟩
      · have knows := (tidy.knows_of_keeps keeps).act act
        exact .inr ⟨lacks.after knows acts, _, List.mem_cons_self .., dropped⟩

section

variable {acts : List CacheAct} {before since : List (Environment × CacheAct)}
  {happened : Environment × CacheAct}

/-- An artifact that was handed out is kept in the end exactly if it was not dropped since. -/
theorem Tidy.given_keeps (tidy : environment.Tidy)
    (keeping : environment.config.cacheArtifacts = true)
    (split : environment.history acts = before ++ happened :: since)
    (gives : Gives happened input artifact) :
    artifact.digest = Blake3.digest input ∧
      ((environment.after acts).Keeps artifact ∧ (∀ later ∈ since, ¬Drops later artifact) ∨
        (environment.after acts).Lacks artifact ∧ ∃ later ∈ since, Drops later artifact) := by
  obtain ⟨earlier, act, later, rfl, rfl, rfl⟩ := history_split split
  have tidyThen := tidy.after earlier
  obtain ⟨keeps, isDigest⟩ := tidyThen.keeps_of_gives
    ((congrArg Config.cacheArtifacts (environment.after_config earlier)).trans keeping) gives
  rw [after_append, after_cons]
  exact ⟨isDigest, (tidyThen.act act).after_keeps keeps later⟩

/-- An artifact that was handed out stays known. -/
theorem Tidy.given_knows (tidy : environment.Tidy)
    (split : environment.history acts = before ++ happened :: since)
    (gives : Gives happened input artifact) : (environment.after acts).Knows artifact := by
  obtain ⟨earlier, act, later, rfl, rfl, rfl⟩ := history_split split
  rw [after_append, after_cons]
  exact ((tidy.after earlier).knows_of_gives gives).after later

end

/-- What is compiled now is another artifact than one that was handed out and is not kept. -/
theorem Tidy.differs_of_lacks (tidy : environment.Tidy) (lacks : environment.Lacks artifact)
    (knows : environment.Knows artifact) {found : Artifact} {next : Environment}
    (compiled : environment.compile input = .ok (found, next)) : found.same artifact = false := by
  have served := environment.compile_served input
  rw [compiled] at served
  cases served with
  | kept isKept => exact lacks _ (tidy.keeps_of_cached? isKept).2
  | made absent own serial digest => exact knows.differs_of_serial serial

/-- What is compiled now is equal to an artifact that is kept, if it is the very same one. -/
theorem Tidy.eq_of_compile (tidy : environment.Tidy) (keeps : environment.Keeps artifact)
    {found : Artifact} {next : Environment}
    (compiled : environment.compile input = .ok (found, next))
    (same : found.same artifact = true) : found = artifact := by
  have served := environment.compile_served input
  rw [compiled] at served
  cases served with
  | kept isKept => exact tidy.eq_of_same keeps (tidy.keeps_of_cached? isKept).2 same
  | made absent own serial digest =>
      rw [(tidy.knows_of_keeps keeps).differs_of_serial serial] at same
      contradiction

/-- What is kept after an act was kept before, or was handed out by it. -/
theorem mem_of_mem_act {act : CacheAct} {entry : List UInt8 × Artifact}
    (isKept : entry ∈ (environment.act act).cache) :
    entry ∈ environment.cache ∨
      ∃ input, entry.1 = Blake3.digest input ∧ Gives (environment, act) input entry.2 := by
  have acted := environment.act_acted act
  generalize environment.act act = next at acted isKept
  cases acted with
  | idle => exact .inl isKept
  | made gives absent own serial digest =>
      rcases mem_of_mem_noting isKept with rfl | isOld
      · exact .inr ⟨_, digest, gives⟩
      · exact .inl isOld
  | evicted found isCopy succeeds => exact .inl (List.mem_filter.1 isKept).1
  | refused fails => exact .inl isKept
  | cleared => contradiction

/-- An act that does not drop an artifact lets it last. -/
theorem Lasts.append {acts : List CacheAct} (lasts : environment.Lasts acts input artifact)
    {act : CacheAct} (undropped : ¬Drops (environment.after acts, act) artifact) :
    environment.Lasts (acts ++ [act]) input artifact := by
  obtain ⟨before, happened, since, split, gives, none⟩ := lasts
  refine ⟨before, happened, since ++ [(environment.after acts, act)], ?_, gives, ?_⟩
  · rw [history_append, split]
    simp [history]
  · intro later member
    rcases List.mem_append.1 member with isEarlier | isLast
    · exact none later isEarlier
    · rw [List.mem_singleton.1 isLast]
      exact undropped

/-- Every artifact that is kept was handed out for an input with its digest, and was not
dropped since. -/
theorem Tidy.lasts_of_mem (tidy : environment.Tidy) (noneKept : environment.cache = [])
    (acts : List CacheAct) :
    ∀ entry ∈ (environment.after acts).cache,
      ∃ input, entry.1 = Blake3.digest input ∧ environment.Lasts acts input entry.2 := by
  induction acts using List.reverseRecOn with
  | nil =>
      intro entry isKept
      rw [Environment.after, List.foldl_nil, noneKept] at isKept
      contradiction
  | append_singleton acts act inductionHypothesis =>
      intro entry isKept
      rw [after_append] at isKept
      rcases mem_of_mem_act isKept with wasKept | ⟨input, isDigest, gives⟩
      · obtain ⟨input, isDigest, lasts⟩ := inductionHypothesis entry wasKept
        have keeps : (environment.after acts).Keeps entry.2 := by
          rw [Keeps, (tidy.after acts).digest entry wasKept]
          exact wasKept
        rcases (tidy.after acts).act_keeps keeps act with ⟨-, undropped⟩ | ⟨lacks, -⟩
        · exact ⟨input, isDigest, lasts.append undropped⟩
        · have differs := lacks entry isKept
          rw [entry.2.same_self] at differs
          contradiction
      · refine ⟨input, isDigest, environment.history acts, _, [], ?_, gives, by simp⟩
        rw [history_append]
        rfl

/-! ## Identity of artifacts -/

/-- Which artifacts an environment that keeps them hands out, evicts and counts. -/
structure Retains (environment : Environment) (acts : List CacheAct) : Prop where
  /-- An input that was compiled before compiles to the very same artifact exactly if that was
  not dropped since. -/
  again : ∀ {before happened since input artifact},
    environment.history acts = before ++ happened :: since → Gives happened input artifact →
      ((∃ found next, (environment.after acts).compile input = .ok (found, next) ∧
          found.same artifact = true) ↔ ∀ later ∈ since, ¬Drops later artifact)
  /-- The very same artifact is an equal one. -/
  equal : ∀ {before happened since first input artifact found next},
    environment.history acts = before ++ happened :: since → Gives happened first artifact →
      (environment.after acts).compile input = .ok (found, next) → found.same artifact = true →
        found = artifact
  /-- An artifact that was handed out is evicted exactly if it is the one that is kept under
  its digest, and so exactly if it was not dropped since. -/
  evicted : ∀ {before happened since input artifact},
    environment.history acts = before ++ happened :: since → Gives happened input artifact →
      (((environment.after acts).evict artifact).1 = true ↔
          (environment.after acts).cached? artifact.digest = some artifact) ∧
        (((environment.after acts).evict artifact).1 = true ↔
          ∀ later ∈ since, ¬Drops later artifact)
  /-- An eviction takes away what is kept under the digest of the artifact, and nothing else. -/
  removes : ∀ {artifact}, ((environment.after acts).evict artifact).1 = true →
    (∀ digest, ((environment.after acts).evict artifact).2.cached? digest =
        if digest = artifact.digest then none else (environment.after acts).cached? digest) ∧
      ((environment.after acts).evict artifact).2.cachedArtifacts + 1 =
        (environment.after acts).cachedArtifacts
  /-- An eviction that is refused changes nothing. -/
  refused : ∀ {artifact}, ((environment.after acts).evict artifact).1 = false →
    ((environment.after acts).evict artifact).2 = environment.after acts
  /-- An artifact of another environment is not evicted, whatever its digest. -/
  foreign : ∀ {artifact}, artifact.environment ≠ environment.id →
    (environment.after acts).evict artifact = (false, environment.after acts)
  /-- As many artifacts are kept as there are digests of inputs that were compiled, with
  artifacts that were not dropped since. -/
  count : ((environment.after acts).cachedArtifacts : ℕ∞) =
    {digest | ∃ input artifact, digest = Blake3.digest input ∧
      environment.Lasts acts input artifact}.encard

/-- What an environment does that keeps no artifacts. -/
structure Discards (environment : Environment) (acts : List CacheAct) : Prop where
  /-- What an input compiles to was never handed out before. -/
  fresh : ∀ {before happened since first artifact input found next},
    environment.history acts = before ++ happened :: since → Gives happened first artifact →
      (environment.after acts).compile input = .ok (found, next) → found.same artifact = false
  refused : ∀ artifact, (environment.after acts).evict artifact = (false, environment.after acts)
  count : (environment.after acts).cachedArtifacts = 0

/-- Which artifacts are the very same, whether or not artifacts are kept. -/
structure ArtifactIdentity (environment : Environment) (acts : List CacheAct) : Prop where
  retains : environment.config.cacheArtifacts = true → Retains environment acts
  discards : environment.config.cacheArtifacts = false → Discards environment acts

theorem tidy_of_create {id : EnvironmentId} {config : Config}
    (created : create id config = .ok environment) : environment.Tidy := by
  obtain ⟨-, noneKept⟩ := create_eq created
  constructor <;> simp [noneKept]

/-- The artifacts that are kept are those that last, so there are as many of them as of
their digests. -/
theorem Tidy.count_eq (tidy : environment.Tidy) (noneKept : environment.cache = [])
    (keeping : environment.config.cacheArtifacts = true) (acts : List CacheAct) :
    ((environment.after acts).cachedArtifacts : ℕ∞) =
      {digest | ∃ input artifact, digest = Blake3.digest input ∧
        environment.Lasts acts input artifact}.encard := by
  have keys := (tidy.after acts).keys
  have isKeys : {digest | ∃ input artifact, digest = Blake3.digest input ∧
      environment.Lasts acts input artifact} =
        (((environment.after acts).cache.map Prod.fst).toFinset : Set (List UInt8)) := by
    ext digest
    simp only [Set.mem_ofPred_eq, List.coe_toFinset, List.mem_map]
    constructor
    · rintro ⟨input, artifact, rfl, before, happened, since, split, gives, lasts⟩
      obtain ⟨isDigest, kept⟩ := tidy.given_keeps keeping split gives
      rcases kept with ⟨keeps, -⟩ | ⟨-, later, member, drops⟩
      · exact ⟨_, keeps, isDigest⟩
      · exact absurd drops (lasts later member)
    · rintro ⟨entry, isKept, rfl⟩
      obtain ⟨input, isDigest, lasts⟩ := tidy.lasts_of_mem noneKept acts entry isKept
      exact ⟨input, entry.2, isDigest, lasts⟩
  rw [isKeys, Set.encard_coe_eq_coe_finsetCard, List.toFinset_card_of_nodup keys, List.length_map]
  rfl

/-- An environment that keeps no artifacts has none. -/
theorem cache_of_off (noneKept : environment.cache = [])
    (off : environment.config.cacheArtifacts = false) (acts : List CacheAct) :
    (environment.after acts).cache = [] := by
  induction acts using List.reverseRecOn with
  | nil => exact noneKept
  | append_singleton acts act inductionHypothesis =>
      have offThen : (environment.after acts).config.cacheArtifacts = false :=
        (congrArg Config.cacheArtifacts (environment.after_config acts)).trans off
      rw [after_append]
      show ((environment.after acts).act act).cache = []
      have acted := (environment.after acts).act_acted act
      generalize (environment.after acts).act act = next at acted
      cases acted with
      | idle => exact inductionHypothesis
      | made gives absent own serial digest => simp [noting, offThen, inductionHypothesis]
      | evicted found isCopy succeeds => simp [inductionHypothesis]
      | refused fails => exact inductionHypothesis
      | cleared => rfl

/-- Whatever is compiled, evicted and cleared, an artifact that was handed out is the very one
that is handed out again, evicted and counted until it is dropped, and never after that. -/
theorem artifactIdentity {id : EnvironmentId} {config : Config}
    (created : create id config = .ok environment) (acts : List CacheAct) :
    ArtifactIdentity environment acts := by
  have tidy := tidy_of_create created
  have tidyNow := tidy.after acts
  have noneKept := (create_eq created).2
  refine ⟨fun keeping => ?retains, fun off => ?discards⟩
  case retains =>
    have keepingNow : (environment.after acts).config.cacheArtifacts = true :=
      (congrArg Config.cacheArtifacts (environment.after_config acts)).trans keeping
    refine ⟨?again, ?equal, ?evicted, tidyNow.evict_removes, evict_eq_of_refused, ?foreign,
      tidy.count_eq noneKept keeping acts⟩
    case again =>
      intro before happened since input artifact split gives
      obtain ⟨isDigest, kept⟩ := tidy.given_keeps keeping split gives
      rcases kept with ⟨keeps, none⟩ | ⟨lacks, later, member, drops⟩
      · have found := tidyNow.cached?_of_keeps keepingNow keeps
        rw [isDigest] at found
        have compiled : (environment.after acts).compile input =
            .ok (artifact, environment.after acts) := by simp [compile, found, pure, Except.pure]
        exact ⟨fun _ => none, fun _ => ⟨artifact, _, compiled, artifact.same_self⟩⟩
      · refine ⟨?_, fun none => absurd drops (none later member)⟩
        rintro ⟨found, next, compiled, same⟩
        rw [tidyNow.differs_of_lacks lacks (tidy.given_knows split gives) compiled] at same
        contradiction
    case equal =>
      intro before happened since first input artifact found next split gives compiled same
      rcases (tidy.given_keeps keeping split gives).2 with ⟨keeps, -⟩ | ⟨lacks, -⟩
      · exact tidyNow.eq_of_compile keeps compiled same
      · rw [tidyNow.differs_of_lacks lacks (tidy.given_knows split gives) compiled] at same
        contradiction
    case evicted =>
      intro before happened since input artifact split gives
      rcases (tidy.given_keeps keeping split gives).2 with
        ⟨keeps, none⟩ | ⟨lacks, later, member, drops⟩
      · have evicted := tidyNow.evict_of_keeps keepingNow keeps
        have found := tidyNow.cached?_of_keeps keepingNow keeps
        exact ⟨⟨fun _ => found, fun _ => evicted⟩, ⟨fun _ => none, fun _ => evicted⟩⟩
      · have refused := tidyNow.evict_of_lacks lacks
        rw [refused]
        refine ⟨⟨nofun, fun found => ?_⟩, ⟨nofun, fun none => absurd drops (none later member)⟩⟩
        exact absurd lacks (tidyNow.keeps_of_cached? found).2.not_lacks
    case foreign =>
      intro artifact foreign
      rw [← environment.after_id acts] at foreign
      exact tidyNow.evict_of_lacks (tidyNow.lacks_of_foreign foreign)
  case discards =>
    have empty := cache_of_off noneKept off acts
    have lacks (artifact : Artifact) : (environment.after acts).Lacks artifact := by
      rw [Lacks, empty]
      exact nofun
    refine ⟨?fresh, fun artifact => tidyNow.evict_of_lacks (lacks artifact), ?count⟩
    case fresh =>
      intro before happened since first artifact input found next split gives compiled
      exact tidyNow.differs_of_lacks (lacks artifact) (tidy.given_knows split gives) compiled
    case count => rw [cachedArtifacts, empty, List.length_nil]

/-- A module is compiled, found again, dropped with all others, and compiled anew. -/
theorem artifactIdentity_of_recompiled :
    create ⟨0⟩ {} = .ok ofDefaults ∧
      ((ofDefaults.after [.compile emptyModule, .compile emptyModule]).cachedArtifacts,
        (ofDefaults.after [.compile emptyModule, .compile emptyModule]).nextSerial) = (1, 1) ∧
      ((ofDefaults.after [.compile emptyModule, .clear, .compile emptyModule]).cachedArtifacts,
        (ofDefaults.after [.compile emptyModule, .clear, .compile emptyModule]).nextSerial) =
          (1, 2) ∧
      ArtifactIdentity ofDefaults [.compile emptyModule, .clear, .compile emptyModule] := by
  have created : create ⟨0⟩ {} = .ok ofDefaults := rfl
  exact ⟨created, by decide +kernel, by decide +kernel, artifactIdentity created _⟩

end Environment

end WasmSandbox
