/-
# What the destructors release

`GDRHandle.__del__` runs `unmap` and then `unpin`, and `GDRCopy.__del__` runs `close`. This
module proves when running every handle's destructor and then the instance's leaves nothing
held at the driver: every context closed, every token unpinned, every mapping unmapped, and
each mapping unmapped before its handle's token was unpinned.

Three runs defeat the destructors by design, and the theorem's hypotheses exclude exactly
them: an explicit `unpin` while mapped (the later `unmap` cannot pass the cleared token), a
`close` while a handle still holds its token (its calls cannot pass the cleared context),
and a `gdr_map` that succeeds at NULL (the record stays false). A `gdr_unmap` that fails
inside `__del__` raises before `unpin` runs; the theorem asks the driver to let the
destructors' unmaps succeed.

Closing the instance first defeats the destructors entirely. Every handle's `__del__` then
stops at cffi's conversion of the missing context, so no token a handle holds is ever
unpinned. The repository's `basic_example.py` ends that way.
-/

import GdrCopy.Protocol.HandleMirror
import GdrCopy.Protocol.LiveCalls

namespace GdrCopy

/-- Every `gdr_unpin_buffer` of handle `i` in the trace came when the handle held no live
mapping. -/
def UnmappedBeforeUnpin (i : Nat) : Trace → Prop
  | [] => True
  | e :: before =>
      (e.unpinsBy i → ∀ va size, mappedBy i va size before = unmappedBy i va size before) ∧
        UnmappedBeforeUnpin i before

theorem UnmappedBeforeUnpin.cons_other {i : Nat} {e : Event} {trace : Trace}
    (clean : UnmappedBeforeUnpin i trace) (other : e.issuer ≠ .handle i) :
    UnmappedBeforeUnpin i (e :: trace) :=
  ⟨fun unpins => absurd (Event.issuer_of_unpinsBy unpins) other, clean⟩

theorem unmappedBeforeUnpin_of_fresh {i : Nat} {trace : Trace}
    (fresh : ∀ e ∈ trace, e.issuer ≠ .handle i) : UnmappedBeforeUnpin i trace := by
  induction trace with
  | nil => trivial
  | cons e trace ih =>
      exact (ih fun e' mem => fresh e' (List.mem_cons_of_mem e mem)).cons_other
        (fresh e (List.mem_cons_self e trace))

/-- The handle mirrors its calls, and its unpins came after its unmaps, unless it dropped its
token while `_mapped_ptr` was still set. -/
def CleanUnpins (index : Nat) (record : GDRHandle) (trace : Trace) : Prop :=
  Mirrors index record trace ∧
    (UnmappedBeforeUnpin index trace ∨ record.handle = none ∧ truthy record.mappedPtr)

namespace GDRHandle

variable {driver : Driver} {issuer : Issuer} {gdr : GDRCopy} {self self' : GDRHandle}
  {trace : Trace} {event : Event}

theorem Call.owned (call : Call driver issuer gdr self trace event self') : self.handle.isSome := by
  cases call <;> simp_all

theorem Call.cleanUnpins {index : Nat} (nonNull : MapsNonNull driver)
    (call : Call driver (.handle index) gdr self trace event self')
    (clean : CleanUnpins index self trace) : CleanUnpins index self' (event :: trace) := by
  obtain ⟨mirrors, history⟩ := clean
  have past : UnmappedBeforeUnpin index trace :=
    history.resolve_right fun ⟨dropped, _⟩ => by simpa [dropped] using call.owned
  refine ⟨call.mirrors nonNull mirrors, ?_⟩
  cases call with
  | unpin _ _ =>
      by_cases mapped : truthy self.mappedPtr
      · exact .inr ⟨rfl, mapped⟩
      · refine .inl ⟨fun _ va size => ?_, past⟩
        simpa [GDRHandle.mapping, mapped] using mirrors.mapping va size
  | _ => exact .inl ⟨by simp [Event.unpinsBy], past⟩

/-- Past its guards, `__del__` leaves the handle with no token and no mapping: `unmap` finds
the token and the context it needs, and the driver lets the unmap succeed. -/
theorem del_released (fits : 0 ≤ self.mappedSize ∧ self.mappedSize < 2 ^ 64)
    (owned : truthy self.mappedPtr → self.handle.isSome)
    (held : self.handle.isSome → gdr.handle.isSome)
    (unmapOk : ∀ g handle va size, driver trace (.gdrUnmap g handle va size) = (0 : Int)) :
    (del gdr driver issuer self trace).self.handle = none ∧
      truthy (del gdr driver issuer self trace).self.mappedPtr = false := by
  rw [del_eq]
  by_cases mapped : truthy self.mappedPtr
  · obtain ⟨va, hm, hva⟩ := truthy_iff.mp mapped
    obtain ⟨handle, hs⟩ := Option.isSome_iff_exists.mp (owned mapped)
    obtain ⟨g, hg⟩ := Option.isSome_iff_exists.mp (held (by simp [hs]))
    have hz : toUnsigned "size_t" 64 self.mappedSize = .ok self.mappedSize.toNat :=
      toUnsigned_eq_ok.mpr ⟨fits.1, fits.2, rfl⟩
    simp [unmap, unpin, hm, hva, hs, hg, hz, unmapOk, checkError_eq]
  · rcases hs : self.handle with _ | handle
    · simp [unmap_of_not_truthy (eq_false_of_ne_true mapped), unpin_of_none hs, mapped, hs]
    · obtain ⟨g, hg⟩ := Option.isSome_iff_exists.mp (held (by simp [hs]))
      simp [unmap_of_not_truthy (eq_false_of_ne_true mapped), unpin, hs, hg, mapped]

/-- With the instance closed, `__del__` issues no call and changes nothing: `unmap`, or else
`unpin`, stops at cffi's conversion of the missing context. -/
theorem del_of_closed (closed : gdr.handle = none) :
    (del gdr driver issuer self trace).self = self ∧
      (del gdr driver issuer self trace).trace = trace := by
  have noUnmap := (@unmap_cases driver issuer gdr self trace).resolve_right
    fun ⟨_, _, _, _, _, _, held, _⟩ => by simp [closed] at held
  have noUnpin := (@unpin_cases driver issuer gdr self trace).resolve_right
    fun ⟨_, _, held, _⟩ => by simp [closed] at held
  rw [del_eq]
  rcases run : unmap gdr driver issuer self trace with ⟨_ | _, self', trace'⟩ <;>
    obtain ⟨same, traced, -⟩ := run ▸ noUnmap
  · exact ⟨same, traced⟩
  · dsimp only at same traced
    subst same traced
    exact ⟨noUnpin.1, noUnpin.2.1⟩

end GDRHandle

theorem cleanUnpins_handleInvariant {driver : Driver} (nonNull : MapsNonNull driver) :
    HandleInvariant driver CleanUnpins :=
  ⟨fun _ token _ fresh => ⟨Mirrors.init token fresh, .inl (unmappedBeforeUnpin_of_fresh fresh)⟩,
    fun ⟨mirrors, history⟩ other => ⟨mirrors.cons_other other,
      history.imp_left fun clean => clean.cons_other other⟩,
    fun call => call.cleanUnpins nonNull⟩

/-- The destructors of the handles at `order`, then the instance's. -/
def cleanup (order : List Nat) : List Op :=
  order.map (fun index => .handle index .del) ++ [.context .del]

/-- With the instance closed, a handle's destructor leaves the world as it was. -/
theorem World.apply_del_of_closed {driver : Driver} {world : World}
    (closed : world.gdr.handle = none) (index : Nat) :
    world.apply driver (.handle index .del) = world := by
  rcases found : world.handles[index]? with _ | self
  · exact World.apply_handle_none .del found
  · obtain ⟨same, traced⟩ :=
      @GDRHandle.del_of_closed driver (.handle index) world.gdr self world.trace closed
    simp [World.apply_handle .del found, HandleOp.run, HandleOp.run.fields, same, traced,
      World.set_of_getElem? found]

/-- With the instance closed, the destructors leave the world as it was. -/
theorem World.run_cleanup_of_closed {driver : Driver} {world : World}
    (closed : world.gdr.handle = none) (order : List Nat) :
    world.run driver (cleanup order) = world := by
  induction order with
  | nil =>
      simp [cleanup, World.apply, ContextOp.run, GDRCopy.del, GDRCopy.close_of_not_truthy, closed,
        World.withContext]
  | cons index order unchanged =>
      simpa [cleanup, World.apply_del_of_closed closed index] using unchanged

/-- A handle with no token and no mapping left to release. -/
def Released (self : GDRHandle) : Prop :=
  self.handle = none ∧ truthy self.mappedPtr = false

/-- The handle at `index`, if there is one, is released. -/
def ReleasedAt (world : World) (index : Nat) : Prop :=
  ∀ self, world.handles[index]? = some self → Released self

theorem Step.trace_cons {driver : Driver} {world world' : World} (step : Step driver world world') :
    ∃ event, world'.trace = event :: world.trace := by
  cases step <;> exact ⟨_, rfl⟩

theorem Step.trace_extends {driver : Driver} {world world' : World}
    (steps : Relation.ReflTransGen (Step driver) world world') :
    ∃ later, world'.trace = later ++ world.trace := by
  induction steps with
  | refl => exact ⟨[], rfl⟩
  | tail _ step extended =>
      obtain ⟨later, extended⟩ := extended
      obtain ⟨event, next⟩ := step.trace_cons
      exact ⟨event :: later, by rw [next, extended]; rfl⟩

/-- What the destructors need of a world reached after `start`: no handle holds a mapping
without its token, and the instance holds a context while a handle holds a token. -/
structure Cleanable (driver : Driver) (start : Trace) (world : World) : Prop where
  reachable : Reachable driver world
  extended : ∃ later, world.trace = later ++ start
  owned : ∀ self ∈ world.handles, truthy self.mappedPtr → self.handle.isSome
  held : ∀ self ∈ world.handles, self.handle.isSome → truthy world.gdr.handle

section Destructors

variable {driver : Driver} {start : Trace} (nonNull : MapsNonNull driver)
  (unmapOk : ∀ later g handle va size,
    driver (later ++ start) (.gdrUnmap g handle va size) = (0 : Int))

include nonNull unmapOk in
/-- One handle's destructor releases it, and the world stays fit for the others. -/
theorem Cleanable.del {world : World} (cleanable : Cleanable driver start world) (index : Nat) :
    let world' := world.apply driver (.handle index .del)
    Cleanable driver start world' ∧ world'.gdr = world.gdr ∧
      world'.handles.length = world.handles.length ∧
      ∀ j, (j = index ∨ ReleasedAt world j) → ReleasedAt world' j := by
  rcases found : world.handles[index]? with _ | self
  · rw [World.apply_handle_none .del found]
    exact ⟨cleanable, rfl, rfl, fun j released s found' =>
      released.elim (fun same => by simp [same, found] at found') (· s found')⟩
  have mem := List.getElem?_mem found
  have fits :=
    ((mirrors_handleInvariant nonNull).reachable cleanable.reachable index self found).sizeFits
  have steps := World.steps_of_calls found (@World.handleOp_calls driver (.handle index) world.gdr
    self world.trace .del)
  obtain ⟨later, extended⟩ := cleanable.extended
  obtain ⟨later', extended'⟩ := Step.trace_extends steps
  have released :
      Released (HandleOp.run driver (.handle index) world.gdr self world.trace .del).1 :=
    GDRHandle.del_released fits (cleanable.owned self mem)
      (fun owns => by obtain ⟨g, hg, -⟩ := truthy_iff.mp (cleanable.held self mem owns); simp [hg])
      (fun g handle va size => by rw [extended]; exact unmapOk later g handle va size)
  have bound := (List.getElem?_eq_some_iff.mp found).1
  rw [World.apply_handle .del found]
  refine ⟨⟨cleanable.reachable.trans steps,
    ⟨later' ++ later, by rw [List.append_assoc, ← extended]; exact extended'⟩,
    fun s mem' mapped => ?_, fun s mem' owns => ?_⟩, rfl, List.length_set .., fun j j_eq => ?_⟩
  · rcases List.mem_or_eq_of_mem_set mem' with mem' | rfl
    · exact cleanable.owned s mem' mapped
    · simp [released.2] at mapped
  · rcases List.mem_or_eq_of_mem_set mem' with mem' | rfl
    · exact cleanable.held s mem' owns
    · simp [released.1] at owns
  · intro s found'
    by_cases same : index = j
    · subst same
      simp only [List.getElem?_set_self bound, Option.some.injEq] at found'
      exact found' ▸ released
    · rw [List.getElem?_set_ne same] at found'
      exact (j_eq.resolve_left (Ne.symm same)) s found'

include nonNull unmapOk in
/-- The destructors of the handles at `order` release each of them, and a handle released
before stays released. -/
theorem Cleanable.run_dels (order : List Nat) {world : World}
    (cleanable : Cleanable driver start world) :
    let world' := world.run driver (order.map fun index => .handle index .del)
    Cleanable driver start world' ∧ world'.gdr = world.gdr ∧
      world'.handles.length = world.handles.length ∧
      ∀ j, (j ∈ order ∨ ReleasedAt world j) → ReleasedAt world' j := by
  induction order generalizing world with
  | nil => exact ⟨cleanable, rfl, rfl, fun j released => released.resolve_left (List.not_mem_nil j)⟩
  | cons index order ih =>
      obtain ⟨cleanable', gdr_eq, length_eq, releases⟩ := cleanable.del nonNull unmapOk index
      obtain ⟨cleanable'', gdr_eq', length_eq', releases'⟩ := ih cleanable'
      refine ⟨cleanable'', gdr_eq'.trans gdr_eq, length_eq'.trans length_eq,
        fun j released => releases' j ?_⟩
      rcases released with mem | released
      · rcases List.mem_cons.mp mem with rfl | mem
        · exact .inr (releases j (.inl rfl))
        · exact .inl mem
      · exact .inr (releases j (.inr released))

end Destructors

/-- `GDRCopy.__del__` leaves the instance holding no context. -/
theorem GDRCopy.held_del (driver : Driver) (issuer : Issuer) (gdr : GDRCopy) (trace : Trace)
    (g : Nat) : (GDRCopy.del driver issuer gdr trace).self.held g = 0 := by
  by_cases holding : truthy gdr.handle
  · obtain ⟨g', held, live⟩ := truthy_iff.mp holding
    simp [GDRCopy.del, GDRCopy.close_of_truthy held live, GDRCopy.held]
  · have free := eq_false_of_ne_true holding
    simp [GDRCopy.del, GDRCopy.close_of_not_truthy free, GDRCopy.held_of_not_truthy free]

theorem holders_of_released {world : World} (released : ∀ index, ReleasedAt world index)
    (t : GdrMh) : holders t world.handles = 0 :=
  List.countP_eq_zero.mpr fun self mem => by
    obtain ⟨index, found⟩ := List.mem_iff_getElem?.mp mem
    simp [(released index self found).1]

/-- In a reachable world, a handle that is released, or was never pinned, has passed every
mapping it obtained to `gdr_unmap`, each before it unpinned. -/
theorem ReleasedAt.unmapped {driver : Driver} (nonNull : MapsNonNull driver) {world : World}
    (reachable : Reachable driver world) {index : Nat} (released : ReleasedAt world index) :
    (∀ va size, mappedBy index va size world.trace = unmappedBy index va size world.trace) ∧
      UnmappedBeforeUnpin index world.trace := by
  rcases found : world.handles[index]? with _ | self
  · have fresh : ∀ e ∈ world.trace, e.issuer ≠ .handle index := fun e mem issued => by
      have bound := issuersPinned_reachable reachable e mem index issued
      simp [List.getElem?_eq_none_iff] at found
      omega
    obtain ⟨-, counts⟩ := counts_of_fresh world.trace fresh
    exact ⟨fun va size => by rw [(counts va size).1, (counts va size).2],
      unmappedBeforeUnpin_of_fresh fresh⟩
  · obtain ⟨mirrors, history⟩ :=
      (cleanUnpins_handleInvariant nonNull).reachable reachable index self found
    have free := released self found
    exact ⟨fun va size => by simpa [GDRHandle.mapping, free.2] using mirrors.mapping va size,
      history.resolve_right fun ⟨_, mapped⟩ => by simp [free.2] at mapped⟩

/-- Whatever the program, as long as a successful `gdr_map` never hands back NULL: if no
handle holds a mapping without its token, and the instance holds a context while a handle
holds a token, then the destructors of every handle, in any order, and then the instance's,
with the driver letting their unmaps succeed, leave no context, token or mapping held at the
driver, and every handle unmapped before it unpinned. -/
theorem destructors_release_everything (driver : Driver) (nonNull : MapsNonNull driver)
    (ops : List Op) (order : List Nat)
    (unmapOk : ∀ later g handle va size,
      driver (later ++ (World.init.run driver ops).trace) (.gdrUnmap g handle va size) = (0 : Int))
    (owned : ∀ self ∈ (World.init.run driver ops).handles,
      truthy self.mappedPtr → self.handle.isSome)
    (held : ∀ self ∈ (World.init.run driver ops).handles,
      self.handle.isSome → truthy (World.init.run driver ops).gdr.handle)
    (everyHandle : ∀ index < (World.init.run driver ops).handles.length, index ∈ order) :
    let final := World.init.run driver (ops ++ cleanup order)
    (∀ g, opened g final.trace = closed g final.trace) ∧
      (∀ t, pinned t final.trace = unpinned t final.trace) ∧
      ∀ index,
        (∀ va size, mappedBy index va size final.trace = unmappedBy index va size final.trace) ∧
        UnmappedBeforeUnpin index final.trace := by
  intro final
  have cleanable : Cleanable driver (World.init.run driver ops).trace (World.init.run driver ops) :=
    ⟨World.reachable_run ops, ⟨[], rfl⟩, owned, held⟩
  obtain ⟨-, -, length_eq, releases⟩ := cleanable.run_dels nonNull unmapOk order
  let dels := (World.init.run driver ops).run driver (order.map fun index => .handle index .del)
  have final_eq : final = dels.withContext (GDRCopy.del driver .context dels.gdr dels.trace) := by
    show World.init.run driver (ops ++ cleanup order) = _
    rw [World.run_append, cleanup, World.run_append]
    rfl
  have reachable : Reachable driver final := World.reachable_run _
  have released : ∀ index, ReleasedAt final index := fun index self found => by
    rw [final_eq] at found
    have bound := (List.getElem?_eq_some_iff.mp found).1
    exact releases index (.inl (everyHandle index (length_eq ▸ bound))) self found
  refine ⟨fun g => ?_, fun t => ?_, fun index => (released index).unmapped nonNull reachable⟩
  · have balance := contextLedger_reachable reachable g
    rw [final_eq] at balance ⊢
    simpa [World.withContext, GDRCopy.held_del] using balance
  · simpa [holders_of_released released] using tokenLedger_reachable reachable t

set_option maxRecDepth 2000 in
/-- The spec's scenario up to `map(4096)`, then the destructors, on the mock driver: every
token it pinned is unpinned. -/
theorem scenario_destructors_unpin_all :
    MapsNonNull mockDriver ∧
      ∀ t, pinned t (World.init.run mockDriver (scenario.take 4 ++ cleanup [0])).trace =
        unpinned t (World.init.run mockDriver (scenario.take 4 ++ cleanup [0])).trace :=
  ⟨mockDriver_mapsNonNull, (destructors_release_everything mockDriver mockDriver_mapsNonNull
    (scenario.take 4) [0] (fun _ _ _ _ _ => rfl) (by decide) (by decide) (by decide)).2.1⟩

set_option maxRecDepth 2000 in
/-- Two runs that end with the destructors. On the mock driver, an explicit `unpin` while
mapped: the mapping at address 3 is never passed to `gdr_unmap`. Without that `unpin`, on a
driver whose `gdr_unmap` fails: `__del__` raises before `unpin`, and token 2 is never passed
to `gdr_unpin_buffer`. -/
theorem destructors_leak_after_unpin_or_failed_unmap :
    let unpinnedFirst := World.init.run mockDriver
      (scenario.take 2 ++ [.handle 0 (.map 4096), .handle 0 .unpin] ++ cleanup [0])
    let unmapFailed := World.init.run failingUnmapDriver
      (scenario.take 2 ++ [.handle 0 (.map 4096)] ++ cleanup [0])
    mappedBy 0 3 4096 unpinnedFirst.trace = 1 ∧ unmappedBy 0 3 4096 unpinnedFirst.trace = 0 ∧
      pinned ⟨2⟩ unmapFailed.trace = 1 ∧ unpinned ⟨2⟩ unmapFailed.trace = 0 := by
  decide

/-- Once the instance has closed its context, the destructors release nothing. Each handle's
`__del__` raises cffi's `TypeError` on the missing context before any native call, and the
instance's `__del__` has no context left to close. So a token that a handle still holds is
never passed to `gdr_unpin_buffer`. -/
theorem destructors_after_close_release_nothing (driver : Driver) (ops : List Op)
    (order : List Nat) (closed : (World.init.run driver ops).gdr.handle = none) :
    let world := World.init.run driver ops
    let final := World.init.run driver (ops ++ cleanup order)
    final = world ∧
      ∀ t, holders t world.handles ≠ 0 → unpinned t final.trace < pinned t final.trace := by
  intro world final
  have same : final = world := by
    show World.init.run driver (ops ++ cleanup order) = _
    rw [World.run_append]
    exact World.run_cleanup_of_closed closed order
  refine ⟨same, fun t holding => ?_⟩
  have ledger : pinned t world.trace = unpinned t world.trace + holders t world.handles :=
    tokenLedger_reachable (World.reachable_run ops) t
  rw [same]
  omega

set_option maxRecDepth 2000 in
/-- `basic_example.py` on the mock driver: its `finally` closes the instance while its handle
is pinned and mapped, so after the destructors token 3 is still not unpinned. -/
theorem basic_example_leaks_its_pin :
    (World.init.run mockDriver (BasicExample.calls 0x7f0000000000 4000 0x5000)).gdr.handle =
        none ∧
      unpinned ⟨3⟩ (World.init.run mockDriver
          (BasicExample.calls 0x7f0000000000 4000 0x5000 ++ cleanup [0])).trace <
        pinned ⟨3⟩ (World.init.run mockDriver
          (BasicExample.calls 0x7f0000000000 4000 0x5000 ++ cleanup [0])).trace :=
  ⟨by decide, (destructors_after_close_release_nothing mockDriver _ [0] (by decide)).2 ⟨3⟩
    (by decide)⟩

end GdrCopy
