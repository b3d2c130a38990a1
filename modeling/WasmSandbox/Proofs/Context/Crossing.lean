import WasmSandbox.Proofs.Context.Growth

/-!
Contract: values that go into the engine and come out of it again.

Owns:
- references that last: those that come back as the same handle;
- the way of values into the engine and out of it, and that they come back as they were
  and leave the context as it was exactly if the references among them last.

A reference to a function of an instance lasts.  A reference to a host function lasts
once a module that has its type is instantiated; before that, each time it comes out of
the engine, it is another function with another handle.

Does not own: which calls values cross the boundary for.
-/

namespace WasmSandbox

open Wasm

/-- A reference comes out of the engine as it is exactly if its type is adapted, where it
is one to a host function. -/
theorem Wasm.Store.emerge_eq_same_iff {H : Type} (store : Store H) (origin key : FuncKey) :
    store.emerge origin = (key, store) ↔
      key = origin ∧ ∀ (number : Nat) (func : HostFunc H), origin = .host number →
        store.hosts[number]? = some func → store.isAdapted func.signature = true := by
  cases origin with
  | guest owner index =>
      simp only [emerge, Prod.mk.injEq, and_true, reduceCtorEq, false_implies, implies_true]
      exact eq_comm
  | host number =>
      simp only [emerge, FuncKey.host.injEq]
      cases found : store.hosts[number]? with
      | none =>
          simp only [Prod.mk.injEq, and_true]
          constructor
          · rintro rfl
            refine ⟨rfl, ?_⟩
            rintro _ func rfl isHost
            rw [found] at isHost
            contradiction
          · rintro ⟨rfl, -⟩
            rfl
      | some func =>
          by_cases adapted : store.isAdapted func.signature = true
          · simp only [adapted, if_true, Prod.mk.injEq, and_true]
            constructor
            · rintro rfl
              refine ⟨rfl, ?_⟩
              rintro _ other rfl isHost
              rw [found] at isHost
              rw [← Option.some.inj isHost]
              exact adapted
            · rintro ⟨rfl, -⟩
              rfl
          · simp only [if_neg adapted]
            constructor
            · intro same
              have sizes := congrArg (fun out : FuncKey × Store H => out.2.hosts.size) same
              simp [addHost] at sizes
            · rintro ⟨-, lasting⟩
              exact absurd (lasting number func rfl found) adapted

namespace Context

variable {σ : Type} {context after : Context σ}

/-- A reference that comes back from the engine as the same handle. -/
def Lasts (context : Context σ) (func : FuncHandle) : Prop :=
  ∃ entry, context.funcEntry? func = some entry ∧ entry.origin = entry.key ∧
    ∀ number, entry.key = .host number → context.store.isAdapted entry.signature = true

/-- Values among which every reference lasts. -/
def Durable (context : Context σ) (values : List Val) : Prop :=
  ∀ value ∈ values, ∀ func, value.target? = some func → context.Lasts func

/-- Values on their way into the engine and, as values of the given kinds, out of it. -/
def cross (context : Context σ) (values : List Val) (kinds : List ValueKind) :
    Except CallError (List Val) × Context σ :=
  match values.mapM context.lower with
  | .ok lowered => context.liftAll lowered kinds
  | .error error => (.error error, context)

/-! ## Nothing gets less -/

/-- The number of functions that the context and the engine have. -/
def extent (context : Context σ) : Nat := context.funcCount + context.store.hosts.size

private theorem size_le {α : Type} {before after : Array α}
    (kept : ∀ {index : Nat} {item : α}, before[index]? = some item → after[index]? = some item) :
    before.size ≤ after.size := by
  rcases Nat.eq_zero_or_pos before.size with empty | nonempty
  · rw [empty]
    exact Nat.zero_le _
  · have last : before[before.size - 1]? = some before[before.size - 1] :=
      Array.getElem?_eq_getElem (by omega)
    have below := (Array.getElem?_eq_some_iff.1 (kept last)).1
    omega

theorem Extends.extent_le (extension : Extends context after) : context.extent ≤ after.extent :=
  Nat.add_le_add (size_le extension.entry) (size_le extension.store.host)

/-- A function that comes out of the engine leaves the context as it was, or makes it
have more functions. -/
private theorem handleOf_stays (context : Context σ) (origin : FuncKey) :
    (context.handleOf origin none).2 = context ∨
      context.extent < (context.handleOf origin none).2.extent := by
  have emerged := Store.emerge_emerged context.store origin
  unfold handleOf
  generalize context.store.emerge origin = out at emerged
  obtain ⟨key, store⟩ := out
  simp only at emerged ⊢
  have sizes : store = context.store ∨ context.store.hosts.size < store.hosts.size := by
    cases emerged with
    | lasting => exact .inl rfl
    | renewed isHost found passing =>
        right
        simp [Store.addHost]
  cases context.funcs.find? key with
  | some index =>
      rcases sizes with rfl | more
      · exact .inl rfl
      · right
        unfold extent funcCount
        exact Nat.add_lt_add_left more _
  | none =>
      cases describeFunc { context with store := store } key none with
      | error reason =>
          rcases sizes with rfl | more
          · exact .inl rfl
          · right
            unfold extent funcCount
            exact Nat.add_lt_add_left more _
      | ok signature =>
          right
          have atLeast : context.store.hosts.size ≤ store.hosts.size := by
            rcases sizes with rfl | more
            · exact Nat.le_refl _
            · exact Nat.le_of_lt more
          simp only [extent, enterFunc, funcCount, FuncTable.count, FuncTable.push, Array.size_push]
          omega

theorem lift_stays (context : Context σ) (value : Value) (kind : ValueKind) :
    (context.lift value kind).2 = context ∨
      context.extent < (context.lift value kind).2.extent := by
  rcases context.lift_cases value kind with
    ⟨key, rfl, rfl⟩ | ⟨-, ⟨lifted, passes, -⟩ | ⟨error, fails⟩⟩
  · have stays := context.handleOf_stays key
    rw [lift_func]
    generalize context.handleOf key none = out at stays
    obtain ⟨outcome, middle⟩ := out
    cases outcome <;> exact stays
  · rw [passes]
    exact .inl rfl
  · rw [fails]
    exact .inl rfl

/-! ## One value -/

section

variable (sound : context.Sound)
include sound

/-- The type of a host function is adapted exactly if the signature of its entry is. -/
theorem Sound.isAdapted_of_host {func : FuncHandle} {entry : FuncEntry} {number : Nat}
    {host : HostFunc (Closure σ)} (found : context.funcEntry? func = some entry)
    (isHost : entry.key = .host number) (member : context.store.hosts[number]? = some host) :
    context.store.isAdapted host.signature = context.store.isAdapted entry.signature := by
  have typed := sound.entry_typed found
  rw [isHost] at typed
  simp only [Store.funcType?, member, Option.map_some, Option.some.injEq] at typed
  unfold Store.isAdapted
  rw [typed]

/-- A reference comes out of the engine under the key of an entry exactly if it is that key,
and lasts where it is one to a host function. -/
private theorem emerge_key_iff {func : FuncHandle} {entry : FuncEntry}
    (found : context.funcEntry? func = some entry) (origin : FuncKey) :
    context.store.emerge origin = (entry.key, context.store) ↔
      origin = entry.key ∧
        ∀ number, entry.key = .host number → context.store.isAdapted entry.signature = true := by
  rw [Store.emerge_eq_same_iff]
  constructor
  · rintro ⟨same, lasting⟩
    refine ⟨same.symm, ?_⟩
    intro number isHost
    have typed := sound.entry_typed found
    rw [isHost] at typed
    obtain ⟨host, member, -⟩ := Option.map_eq_some_iff.1 typed
    rw [← sound.isAdapted_of_host found isHost member]
    exact lasting number host (same ▸ isHost) member
  · rintro ⟨rfl, lasting⟩
    refine ⟨rfl, ?_⟩
    intro number host isHost member
    rw [sound.isAdapted_of_host found isHost member]
    exact lasting number isHost

/-- The reference to a function comes out of the engine under the function's own key
exactly if it lasts. -/
private theorem emerge_reference_iff {func : FuncHandle} {entry : FuncEntry}
    (found : context.funcEntry? func = some entry) :
    context.store.emerge (context.reference entry) = (entry.key, context.store) ↔
      entry.origin = entry.key ∧
        ∀ number, entry.key = .host number → context.store.isAdapted entry.signature = true := by
  rw [emerge_key_iff sound found, reference]
  refine and_congr_left fun lasting => ?_
  by_cases adapted : context.store.isAdapted entry.signature = true
  · rw [if_pos adapted]
  · rw [if_neg adapted]
    refine iff_of_true rfl ?_
    cases isKey : entry.key with
    | host number => exact absurd (lasting number isKey) adapted
    | guest owner index =>
        rw [← isKey]
        exact (sound.entry_guest found isKey).1

/-- What comes out of the engine has the handle of an entry exactly if it comes out under
the entry's key. -/
private theorem handleOf_eq_same_iff {func : FuncHandle} {entry : FuncEntry}
    (found : context.funcEntry? func = some entry) (origin : FuncKey) :
    context.handleOf origin none = (.ok func, context) ↔
      context.store.emerge origin = (entry.key, context.store) := by
  obtain ⟨own, member⟩ : func.context = context.id ∧
      context.funcs.entry? func.index = some entry := by
    unfold funcEntry? at found
    split at found
    · exact ⟨‹_›, found⟩
    · contradiction
  unfold handleOf
  constructor
  · intro same
    generalize context.store.emerge origin = out at same
    obtain ⟨key, store⟩ := out
    simp only at same
    cases known : context.funcs.find? key with
    | some index =>
        rw [known] at same
        obtain ⟨sameFunc, sameContext⟩ := Prod.mk.inj same
        have sameStore : store = context.store := congrArg Context.store sameContext
        obtain ⟨other, otherMember, otherKey⟩ := sound.inverse.entered known
        rw [← Except.ok.inj sameFunc, otherMember] at member
        rw [← Option.some.inj member, otherKey, sameStore]
    | none =>
        rw [known] at same
        simp only at same
        split at same
        · have sameContext := (Prod.mk.inj same).2
          have sizes := congrArg Context.funcCount sameContext
          simp [funcCount, enterFunc, FuncTable.count, FuncTable.push] at sizes
        · have fails := (Prod.mk.inj same).1
          contradiction
  · intro emerges
    have isFunc : (⟨context.id, func.index⟩ : FuncHandle) = func := by rw [← own]
    rw [emerges]
    simp only [sound.inverse.found member, isFunc]

/-- What comes out of the engine under the handle of a function that has been known leaves the
context as it was. -/
private theorem handleOf_of_entry {func : FuncHandle} {entry : FuncEntry}
    (found : context.funcEntry? func = some entry) {origin : FuncKey}
    (handed : context.handleOf origin none = (.ok func, after)) : after = context := by
  have emerged := Store.emerge_emerged context.store origin
  unfold handleOf at handed
  generalize context.store.emerge origin = out at emerged handed
  obtain ⟨key, store⟩ := out
  simp only at emerged handed
  have member : context.funcs.entry? func.index = some entry := by
    unfold funcEntry? at found
    split at found
    · exact found
    · contradiction
  cases known : context.funcs.find? key with
  | some index =>
      rw [known] at handed
      obtain ⟨sameFunc, rfl⟩ := Prod.mk.inj handed
      obtain ⟨other, otherMember, isKey⟩ := sound.inverse.entered known
      rw [← Except.ok.inj sameFunc, otherMember, Option.some.injEq] at member
      rw [member] at isKey
      cases emerged with
      | lasting => rfl
      | renewed isHost isFunc passing =>
          -- The key of an entry is that of a function which the engine has.
          have typed := sound.entry_typed found
          rw [isKey] at typed
          simp [Store.funcType?] at typed
  | none =>
      rw [known] at handed
      simp only at handed
      split at handed
      · have sameFunc := Except.ok.inj (Prod.mk.inj handed).1
        have inside := (Array.getElem?_eq_some_iff.1 member).1
        rw [← sameFunc] at inside
        exact absurd inside (Nat.lt_irrefl _)
      · have fails := (Prod.mk.inj handed).1
        contradiction

/-- A function comes out of the engine under a handle that has been known exactly if it is the
function with that handle, and lasts where it is one of the host. -/
theorem Sound.lift_func_iff {func : FuncHandle} {entry : FuncEntry}
    (found : context.funcEntry? func = some entry) (key : FuncKey) (after : Context σ) :
    context.lift (.funcRef (some key)) .funcRef = (.ok (.funcRef (some func)), after) ↔
      after = context ∧ key = entry.key ∧
        ∀ number, entry.key = .host number → context.store.isAdapted entry.signature = true := by
  rw [← emerge_key_iff sound found, ← handleOf_eq_same_iff sound found]
  rw [lift_func]
  constructor
  · intro lifted
    cases handed : context.handleOf key none with
    | mk outcome later =>
        rw [handed] at lifted
        cases outcome with
        | error reason => simp at lifted
        | ok other =>
            cases lifted
            have same := handleOf_of_entry sound found handed
            exact ⟨same, by rw [same]⟩
  · rintro ⟨rfl, handed⟩
    rw [handed]

/-- A value comes back as it was, and leaves the context as it was, exactly if it lasts
where it is a reference. -/
theorem Sound.lift_lower_iff (value : Val) :
    (∃ lowered, context.lower value = .ok lowered ∧
        context.lift lowered value.kind = (.ok value, context)) ↔
      ∀ func, value.target? = some func → context.Lasts func := by
  cases value with
  | funcRef target =>
      cases target with
      | none => exact ⟨fun _ func isTarget => by contradiction, fun _ => ⟨_, rfl, rfl⟩⟩
      | some func =>
          have isTarget : (∀ other, (Val.funcRef (some func)).target? = some other →
              context.Lasts other) ↔ context.Lasts func := by
            simp [Val.target?]
          rw [isTarget]
          simp only [lower, Lasts]
          cases found : context.funcEntry? func with
          | none => simp
          | some entry =>
              simp only [Option.some.injEq, exists_eq_left', Except.ok.injEq,
                ← emerge_reference_iff sound found, ← handleOf_eq_same_iff sound found]
              rw [Val.kind, lift_func]
              constructor
              · intro comesBack
                generalize context.handleOf (context.reference entry) none = out at comesBack
                obtain ⟨outcome, after⟩ := out
                cases outcome with
                | error reason => simp at comesBack
                | ok other => simpa using comesBack
              · intro comesBack
                rw [comesBack]
  | i32 bits => exact ⟨fun _ func isTarget => by contradiction, fun _ => ⟨_, rfl, rfl⟩⟩
  | i64 bits => exact ⟨fun _ func isTarget => by contradiction, fun _ => ⟨_, rfl, rfl⟩⟩
  | f32 bits => exact ⟨fun _ func isTarget => by contradiction, fun _ => ⟨_, rfl, rfl⟩⟩
  | f64 bits => exact ⟨fun _ func isTarget => by contradiction, fun _ => ⟨_, rfl, rfl⟩⟩

/-! ## Values -/

/-- Several values come back as one value and others do: the first cannot leave the
context with more functions, since nothing takes them away again. -/
private theorem liftAll_cons_eq_same_iff (item : Value) (items : List Value) (value : Val)
    (values : List Val) (kind : ValueKind) (kinds : List ValueKind) :
    context.liftAll (item :: items) (kind :: kinds) = (.ok (value :: values), context) ↔
      context.lift item kind = (.ok value, context) ∧
        context.liftAll items kinds = (.ok values, context) := by
  have stays := context.lift_stays item kind
  have grows := (sound.lift_grows item kind).1
  rw [liftAll]
  generalize context.lift item kind = out at stays grows
  obtain ⟨outcome, middle⟩ := out
  cases outcome with
  | error error => simp
  | ok first =>
      have restGrows := (grows.sound.liftAll_grows items kinds).1
      simp only at stays ⊢
      constructor
      · intro same
        cases rest : middle.liftAll items kinds with
        | mk outcome after =>
            rw [rest] at same restGrows
            cases outcome with
            | error error => simp at same
            | ok others =>
                simp only [Prod.mk.injEq, Except.ok.injEq, List.cons.injEq] at same
                obtain ⟨⟨rfl, rfl⟩, rfl⟩ := same
                have noMore := restGrows.extension.extent_le
                rcases stays with rfl | more
                · exact ⟨rfl, rest⟩
                · exact absurd (Nat.lt_of_lt_of_le more noMore) (Nat.lt_irrefl _)
      · rintro ⟨head, tail⟩
        simp only [Prod.mk.injEq, Except.ok.injEq] at head
        obtain ⟨rfl, rfl⟩ := head
        simp only [tail]

private theorem crosses_iff_each (values : List Val) :
    (∃ items, values.mapM context.lower = .ok items ∧
        context.liftAll items (values.map Val.kind) = (.ok values, context)) ↔
      ∀ value ∈ values, ∃ item, context.lower value = .ok item ∧
        context.lift item value.kind = (.ok value, context) := by
  simp only [mapM_eq_ok_iff]
  induction values with
  | nil => simp [liftAll]
  | cons value values inductionHypothesis =>
      rw [List.forall_mem_cons, ← inductionHypothesis]
      simp only [List.forall₂_cons_left_iff, List.map_cons]
      constructor
      · rintro ⟨_, ⟨item, items, lowers, othersLower, rfl⟩, same⟩
        obtain ⟨lifts, othersLift⟩ := (liftAll_cons_eq_same_iff sound _ _ _ _ _ _).1 same
        exact ⟨⟨item, lowers, lifts⟩, items, othersLower, othersLift⟩
      · rintro ⟨⟨item, lowers, lifts⟩, items, othersLower, othersLift⟩
        exact ⟨_, ⟨item, items, lowers, othersLower, rfl⟩,
          (liftAll_cons_eq_same_iff sound _ _ _ _ _ _).2 ⟨lifts, othersLift⟩⟩

/-- Values come back as they were, and leave the context as it was, exactly if the
references among them last. -/
theorem Sound.cross_eq_same_iff (values : List Val) :
    context.cross values (values.map Val.kind) = (.ok values, context) ↔
      context.Durable values := by
  have each : context.Durable values ↔ ∀ value ∈ values, ∃ item,
      context.lower value = .ok item ∧ context.lift item value.kind = (.ok value, context) :=
    forall₂_congr fun value _ => (sound.lift_lower_iff value).symm
  rw [each, ← crosses_iff_each sound, cross]
  cases values.mapM context.lower <;> simp

theorem Sound.cross_depth (values : List Val) (kinds : List ValueKind) :
    (context.cross values kinds).2.depth = context.depth := by
  unfold cross
  cases values.mapM context.lower with
  | error error => rfl
  | ok items => exact (sound.liftAll_grows items kinds).1.depth

end

end Context

end WasmSandbox
