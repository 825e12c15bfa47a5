/-
# One program using the bindings, call by call

A `World` is one `GDRCopy` instance, every handle it has pinned in the order of pinning, and
the calls issued so far. A program is any sequence of operations on these objects: methods of
the instance or of a handle, the two module functions, and the destructors, which Python may
run at any point once an object is unreachable. What a method returns or raises is not fed
back, since a sequence chosen in advance already covers every program for a fixed driver.

`Step` says once what a single native call can do to a world. Every operation is a chain of
such steps (`apply_steps`), so an invariant proved for `Step` holds on every run.
-/

import GdrCopy.Binding.Context
import GdrCopy.Driver.Ledger

namespace GdrCopy

/-- One `GDRCopy` instance, the handles it pinned, and the calls issued so far. -/
structure World where
  gdr : GDRCopy
  handles : List GDRHandle
  trace : Trace

/-- A method of the `GDRCopy` instance, or its destructor. -/
inductive ContextOp
  | «open»
  | close
  | del
  | pinBuffer (addr size p2pToken vaSpace : Int)
  | pinBufferV2 (addr size flags : Int)
  | getAttribute (attr : Int)

/-- A method of a handle, or its destructor. -/
inductive HandleOp
  | unpin
  | getInfo
  | map (size : Int)
  | unmap
  | copyToMapping (hostPtr size : Int)
  | copyFromMapping (hostPtr size : Int)
  | getCallbackFlag
  | del

/-- A module-level function; `get_driver_version` is given the program's instance. -/
inductive ModuleOp
  | getVersion
  | getDriverVersion

/-- One operation of the program, on the instance, on the handle at `index`, or none. -/
inductive Op
  | context (op : ContextOp)
  | handle (index : Nat) (op : HandleOp)
  | module (op : ModuleOp)

namespace World

/-- Before anything ran: `GDRCopy()` and no handle. -/
def init : World := ⟨GDRCopy.init, [], []⟩

/-- The world after a method of the instance. -/
def withContext {α : Type} (world : World) (outcome : Outcome GDRCopy α) : World :=
  { world with gdr := outcome.self, trace := outcome.trace }

/-- The world after a pin: the handle it returned, if any, joins the list. -/
def withPin (world : World) (outcome : Outcome GDRCopy GDRHandle) : World :=
  { gdr := outcome.self, trace := outcome.trace,
    handles := match outcome.result with
      | .ok handle => world.handles ++ [handle]
      | .error _ => world.handles }

end World

/-- A method of the instance, run on a world. -/
def ContextOp.run (driver : Driver) (world : World) : ContextOp → World
  | .open => world.withContext (GDRCopy.open driver .context world.gdr world.trace)
  | .close => world.withContext (GDRCopy.close driver .context world.gdr world.trace)
  | .del => world.withContext (GDRCopy.del driver .context world.gdr world.trace)
  | .pinBuffer addr size p2pToken vaSpace =>
      world.withPin (GDRCopy.pinBuffer addr size p2pToken vaSpace driver .context world.gdr
        world.trace)
  | .pinBufferV2 addr size flags =>
      world.withPin (GDRCopy.pinBufferV2 addr size flags driver .context world.gdr world.trace)
  | .getAttribute attr =>
      world.withContext (GDRCopy.getAttribute attr driver .context world.gdr world.trace)

/-- A method of a handle, run on its fields: the fields and the trace it leaves. -/
def HandleOp.run (driver : Driver) (issuer : Issuer) (gdr : GDRCopy) (self : GDRHandle)
    (trace : Trace) : HandleOp → GDRHandle × Trace
  | .unpin => fields (GDRHandle.unpin gdr driver issuer self trace)
  | .getInfo => fields (GDRHandle.getInfo gdr driver issuer self trace)
  | .map size => fields (GDRHandle.map gdr size driver issuer self trace)
  | .unmap => fields (GDRHandle.unmap gdr driver issuer self trace)
  | .copyToMapping hostPtr size =>
      fields (GDRHandle.copyToMapping hostPtr size driver issuer self trace)
  | .copyFromMapping hostPtr size =>
      fields (GDRHandle.copyFromMapping hostPtr size driver issuer self trace)
  | .getCallbackFlag => fields (GDRHandle.getCallbackFlag gdr driver issuer self trace)
  | .del => fields (GDRHandle.del gdr driver issuer self trace)
where
  /-- The fields and the trace an outcome leaves. -/
  fields {α : Type} (outcome : Outcome GDRHandle α) : GDRHandle × Trace :=
    (outcome.self, outcome.trace)

namespace World

/-- One operation of the program. An operation on a handle that was never pinned does
nothing, as no program can reach such a handle. -/
def apply (driver : Driver) (world : World) : Op → World
  | .context op => op.run driver world
  | .handle index op =>
      match world.handles[index]? with
      | some self =>
          let after := op.run driver (.handle index) world.gdr self world.trace
          { world with handles := world.handles.set index after.1, trace := after.2 }
      | none => world
  | .module .getVersion =>
      { world with trace := (getVersion driver .module () world.trace).trace }
  | .module .getDriverVersion =>
      { world with trace := (getDriverVersion world.gdr driver .module () world.trace).trace }

theorem apply_handle {driver : Driver} {world : World} {index : Nat} {self : GDRHandle}
    (op : HandleOp) (found : world.handles[index]? = some self) :
    world.apply driver (.handle index op) =
      ⟨world.gdr,
        world.handles.set index (op.run driver (.handle index) world.gdr self world.trace).1,
        (op.run driver (.handle index) world.gdr self world.trace).2⟩ := by
  simp [apply, found]

theorem apply_handle_none {driver : Driver} {world : World} {index : Nat} (op : HandleOp)
    (missing : world.handles[index]? = none) : world.apply driver (.handle index op) = world := by
  simp [apply, missing]

/-- A program: its operations, in order. -/
def run (driver : Driver) (world : World) (ops : List Op) : World :=
  ops.foldl (apply driver) world

@[simp] theorem run_nil (driver : Driver) (world : World) : world.run driver [] = world := rfl

@[simp] theorem run_cons (driver : Driver) (world : World) (op : Op) (ops : List Op) :
    world.run driver (op :: ops) = (world.apply driver op).run driver ops := rfl

theorem run_append (driver : Driver) (world : World) (ops ops' : List Op) :
    world.run driver (ops ++ ops') = (world.run driver ops).run driver ops' :=
  List.foldl_append _ _ _ _

/-- The handles after a pin whose reply is `reply`. -/
def pinned (handles : List GDRHandle) (reply : Int × GdrMh) : List GDRHandle :=
  if reply.1 = 0 then handles ++ [GDRHandle.init reply.2] else handles

end World

/-- One native call and what it does to the world: the premises are what the wrapper
checked, or what cffi needed, before making it. -/
inductive Step (driver : Driver) : World → World → Prop
  | «open» {world : World} : truthy world.gdr.handle = false →
      Step driver world ⟨⟨some (driver world.trace .gdrOpen)⟩, world.handles,
        ⟨.context, .gdrOpen, driver world.trace .gdrOpen⟩ :: world.trace⟩
  | close {world : World} {g : Nat} : world.gdr.handle = some g → g ≠ 0 →
      Step driver world ⟨⟨none⟩, world.handles,
        ⟨.context, .gdrClose g, driver world.trace (.gdrClose g)⟩ :: world.trace⟩
  | pinBuffer {world : World} {g : Nat} (addr size p2pToken vaSpace : Nat) :
      world.gdr.handle = some g → g ≠ 0 →
      Step driver world ⟨world.gdr,
        World.pinned world.handles
          (driver world.trace (.gdrPinBuffer g addr size p2pToken vaSpace)),
        ⟨.context, .gdrPinBuffer g addr size p2pToken vaSpace,
          driver world.trace (.gdrPinBuffer g addr size p2pToken vaSpace)⟩ :: world.trace⟩
  | pinBufferV2 {world : World} {g : Nat} (addr size flags : Nat) :
      world.gdr.handle = some g → g ≠ 0 →
      Step driver world ⟨world.gdr,
        World.pinned world.handles (driver world.trace (.gdrPinBufferV2 g addr size flags)),
        ⟨.context, .gdrPinBufferV2 g addr size flags,
          driver world.trace (.gdrPinBufferV2 g addr size flags)⟩ :: world.trace⟩
  | getAttribute {world : World} {g : Nat} (attr : Nat) : world.gdr.handle = some g → g ≠ 0 →
      Step driver world ⟨world.gdr, world.handles,
        ⟨.context, .gdrGetAttribute g attr, driver world.trace (.gdrGetAttribute g attr)⟩ ::
          world.trace⟩
  | getVersion {world : World} :
      Step driver world ⟨world.gdr, world.handles,
        ⟨.module, .gdrRuntimeGetVersion, driver world.trace .gdrRuntimeGetVersion⟩ :: world.trace⟩
  | getDriverVersion {world : World} {g : Nat} : world.gdr.handle = some g →
      Step driver world ⟨world.gdr, world.handles,
        ⟨.module, .gdrDriverGetVersion g, driver world.trace (.gdrDriverGetVersion g)⟩ ::
          world.trace⟩
  | handle {world : World} {index : Nat} {self self' : GDRHandle} {event : Event} :
      world.handles[index]? = some self →
      GDRHandle.Call driver (.handle index) world.gdr self world.trace event self' →
      Step driver world ⟨world.gdr, world.handles.set index self', event :: world.trace⟩

/-- The worlds a driver lets a program reach from `GDRCopy()`. -/
def Reachable (driver : Driver) (world : World) : Prop :=
  Relation.ReflTransGen (Step driver) World.init world

namespace World

variable {driver : Driver}

theorem set_of_getElem? {α : Type} {handles : List α} {index : Nat} {self : α}
    (found : handles[index]? = some self) : handles.set index self = handles := by
  have bound : index < handles.length := (List.getElem?_eq_some_iff.mp found).1
  apply List.ext_getElem?
  intro other
  by_cases same : index = other
  · subst same
    simp [bound, found]
  · simp [same]

/-- The calls of a handle method are steps of the world that holds the handle. -/
theorem steps_of_calls {world : World} {index : Nat} {self self' : GDRHandle} {trace' : Trace}
    (found : world.handles[index]? = some self)
    (calls : GDRHandle.Calls driver (.handle index) world.gdr (self, world.trace) (self', trace')) :
    Relation.ReflTransGen (Step driver) world
      ⟨world.gdr, world.handles.set index self', trace'⟩ := by
  have bound : index < world.handles.length := (List.getElem?_eq_some_iff.mp found).1
  let lift : GDRHandle × Trace → World := fun state =>
    ⟨world.gdr, world.handles.set index state.1, state.2⟩
  have start : lift (self, world.trace) = world := by
    simp [lift, set_of_getElem? found]
  have lifted :
      Relation.ReflTransGen (Step driver) (lift (self, world.trace)) (lift (self', trace')) := by
    refine Relation.ReflTransGen.lift lift (fun before after ⟨event, call, next⟩ => ?_) calls
    have step := @Step.handle driver (lift before) index _ _ _ (by simp [lift, bound]) call
    simpa [lift, next, List.set_set] using step
  rwa [start] at lifted

theorem withContext_quiet {α : Type} (world : World) {outcome : Outcome GDRCopy α}
    (quiet : outcome.Quiet world.gdr world.trace) : world.withContext outcome = world := by
  simp [withContext, quiet.1, quiet.2.1]

/-- Every method of the instance is at most one step. -/
theorem contextOp_steps (world : World) (op : ContextOp) :
    Relation.ReflTransGen (Step driver) world (op.run driver world) := by
  cases op with
  | «open» =>
      by_cases held : truthy world.gdr.handle
      · simp [ContextOp.run, GDRCopy.open_of_truthy held, withContext]
        exact .refl
      · simpa [ContextOp.run, GDRCopy.open_of_not_truthy (eq_false_of_ne_true held), withContext]
          using .single (@Step.open driver world (eq_false_of_ne_true held))
  | close | del =>
      rcases held : world.gdr.handle with _ | g
      · simpa [ContextOp.run, GDRCopy.del, GDRCopy.close_of_not_truthy, held, withContext]
          using .refl
      by_cases null : g = 0
      · simpa [ContextOp.run, GDRCopy.del, GDRCopy.close_of_not_truthy, held, null, withContext]
          using .refl
      · simpa [ContextOp.run, GDRCopy.del, GDRCopy.close_of_truthy held null, withContext]
          using .single (@Step.close driver world g held null)
  | pinBuffer addr size p2pToken vaSpace =>
      rcases @GDRCopy.pinBuffer_cases driver .context world.gdr world.trace addr size p2pToken
        vaSpace with
        ⟨error, -, run⟩ | ⟨g, a, s, p, v, held, null, -, -, -, -, run⟩
      · simpa [ContextOp.run, run, withPin] using .refl
      · have step := @Step.pinBuffer driver world g a s p v held null
        by_cases hret : (driver world.trace (.gdrPinBuffer g a s p v)).1 = 0 <;>
          simpa [ContextOp.run, run, withPin, pinned, hret] using Relation.ReflTransGen.single step
  | pinBufferV2 addr size flags =>
      rcases @GDRCopy.pinBufferV2_cases driver .context world.gdr world.trace addr size flags with
        ⟨error, -, run⟩ | ⟨g, a, s, f, held, null, -, -, -, run⟩
      · simpa [ContextOp.run, run, withPin] using .refl
      · have step := @Step.pinBufferV2 driver world g a s f held null
        by_cases hret : (driver world.trace (.gdrPinBufferV2 g a s f)).1 = 0 <;>
          simpa [ContextOp.run, run, withPin, pinned, hret] using Relation.ReflTransGen.single step
  | getAttribute attr =>
      rcases @GDRCopy.getAttribute_cases driver .context world.gdr world.trace attr with
        quiet | ⟨g, a, held, null, -, run⟩
      · rw [ContextOp.run, withContext_quiet world quiet]
      · rw [ContextOp.run, run]
        exact .single (@Step.getAttribute driver world g a held null)

/-- Every method of a handle is a chain of handle calls. -/
theorem handleOp_calls (issuer : Issuer) (gdr : GDRCopy) (self : GDRHandle) (trace : Trace)
    (op : HandleOp) :
    GDRHandle.Calls driver issuer gdr (self, trace) (op.run driver issuer gdr self trace) := by
  cases op with
  | unpin => exact GDRHandle.unpin_calls
  | getInfo => exact GDRHandle.getInfo_calls
  | map size => exact GDRHandle.map_calls size
  | unmap => exact GDRHandle.unmap_calls
  | copyToMapping hostPtr size => exact GDRHandle.copyToMapping_calls hostPtr size
  | copyFromMapping hostPtr size => exact GDRHandle.copyFromMapping_calls hostPtr size
  | getCallbackFlag => exact GDRHandle.getCallbackFlag_calls
  | del => exact GDRHandle.del_calls

/-- Every operation is a chain of steps. -/
theorem apply_steps (world : World) (op : Op) :
    Relation.ReflTransGen (Step driver) world (world.apply driver op) := by
  cases op with
  | context op => exact contextOp_steps world op
  | handle index op =>
      rcases found : world.handles[index]? with _ | self
      · simpa [apply, found] using .refl
      · simpa [apply, found] using steps_of_calls found (handleOp_calls _ _ _ _ op)
  | module op =>
      cases op with
      | getVersion => exact .single Step.getVersion
      | getDriverVersion =>
          rcases getDriverVersion_cases driver .module world.gdr world.trace with
            quiet | ⟨g, held, run⟩
          · simpa [apply, quiet.2.1] using .refl
          · rw [apply, run]
            exact .single (@Step.getDriverVersion driver world g held)

/-- Every program runs through reachable worlds. -/
theorem run_steps (world : World) (ops : List Op) :
    Relation.ReflTransGen (Step driver) world (world.run driver ops) := by
  induction ops generalizing world with
  | nil => exact .refl
  | cons op ops ih => exact (apply_steps world op).trans (ih _)

theorem reachable_run (ops : List Op) : Reachable driver (World.init.run driver ops) :=
  run_steps World.init ops

end World

/-- Calls are recorded only for handles that were pinned. -/
def IssuersPinned (world : World) : Prop :=
  ∀ event ∈ world.trace, ∀ index, event.issuer = .handle index → index < world.handles.length

theorem World.length_le_pinned (handles : List GDRHandle) (reply : Int × GdrMh) :
    handles.length ≤ (World.pinned handles reply).length := by
  unfold World.pinned
  split <;> simp

theorem Step.issuersPinned {driver : Driver} {world world' : World}
    (step : Step driver world world') (pinnedOnly : IssuersPinned world) :
    IssuersPinned world' := by
  intro event mem index issued
  have older (mem : event ∈ world.trace) := pinnedOnly event mem index issued
  cases step with
  | pinBuffer _ _ _ _ _ _ | pinBufferV2 _ _ _ _ _ =>
      rcases List.mem_cons.mp mem with rfl | mem
      · cases issued
      · exact Nat.lt_of_lt_of_le (older mem) (World.length_le_pinned _ _)
  | handle found call =>
      rcases List.mem_cons.mp mem with rfl | mem
      · rw [call.issuer_eq] at issued
        cases issued
        simpa using (List.getElem?_eq_some_iff.mp found).1
      · simpa using older mem
  | _ =>
      rcases List.mem_cons.mp mem with rfl | mem
      · cases issued
      · exact older mem

/-- An invariant that holds of `GDRCopy()` and survives every step holds of every reachable
world. -/
theorem Reachable.induction {driver : Driver} {invariant : World → Prop}
    (init : invariant World.init)
    (step : ∀ {world world'}, Step driver world world' → invariant world → invariant world')
    {world : World} (reachable : Reachable driver world) : invariant world := by
  induction reachable with
  | refl => exact init
  | tail _ last holds => exact step last holds

theorem issuersPinned_reachable {driver : Driver} {world : World}
    (reachable : Reachable driver world) : IssuersPinned world :=
  reachable.induction (by simp [IssuersPinned, World.init]) Step.issuersPinned

theorem World.getElem?_pinned {handles : List GDRHandle} {reply : Int × GdrMh} {index : Nat}
    {self : GDRHandle} (found : (World.pinned handles reply)[index]? = some self) :
    handles[index]? = some self ∨ index = handles.length ∧ self = GDRHandle.init reply.2 := by
  unfold World.pinned at found
  split at found
  · rcases Nat.lt_or_ge index handles.length with below | above
    · exact .inl (by rwa [List.getElem?_append_left below] at found)
    · rw [List.getElem?_append_right above] at found
      right
      cases index_eq : index - handles.length <;> simp_all
      omega
  · exact .inl found

/-- A property of one handle's fields against the trace, for the handle at `index`, that holds
when the handle is pinned, survives the calls of every other object and survives the
handle's own calls. -/
structure HandleInvariant (driver : Driver) (invariant : Nat → GDRHandle → Trace → Prop) :
    Prop where
  init : ∀ index token trace, (∀ event ∈ trace, event.issuer ≠ .handle index) →
    invariant index (GDRHandle.init token) trace
  other : ∀ {index self trace event}, invariant index self trace →
    event.issuer ≠ .handle index → invariant index self (event :: trace)
  call : ∀ {index gdr self trace event self'},
    GDRHandle.Call driver (.handle index) gdr self trace event self' →
    invariant index self trace → invariant index self' (event :: trace)

namespace HandleInvariant

variable {driver : Driver} {invariant : Nat → GDRHandle → Trace → Prop}

/-- The invariant for every handle of a world. -/
def Holds (invariant : Nat → GDRHandle → Trace → Prop) (world : World) : Prop :=
  ∀ index self, world.handles[index]? = some self → invariant index self world.trace

theorem holds_step (handleInvariant : HandleInvariant driver invariant) {world world' : World}
    (step : Step driver world world') (pinnedOnly : IssuersPinned world)
    (holds : Holds invariant world) : Holds invariant world' := by
  intro index self found
  cases step with
  | pinBuffer _ _ _ _ _ _ | pinBufferV2 _ _ _ _ _ =>
      rcases World.getElem?_pinned found with found | ⟨rfl, rfl⟩
      · exact handleInvariant.other (holds index self found) nofun
      · refine handleInvariant.init _ _ _ fun event mem issued => ?_
        rcases List.mem_cons.mp mem with rfl | mem
        · cases issued
        · exact Nat.lt_irrefl _ (pinnedOnly event mem _ issued)
  | @handle caller before after event found' call =>
      by_cases same : caller = index
      · subst same
        have bound := (List.getElem?_eq_some_iff.mp found').1
        simp only [List.getElem?_set_self bound, Option.some.injEq] at found
        exact found ▸ handleInvariant.call call (holds caller before found')
      · rw [List.getElem?_set_ne same] at found
        exact handleInvariant.other (holds index self found) (by simp [call.issuer_eq, same])
  | _ => exact handleInvariant.other (holds index self found) nofun

/-- A handle invariant holds of every handle of every reachable world. -/
theorem reachable (handleInvariant : HandleInvariant driver invariant) {world : World}
    (reachable : Reachable driver world) : Holds invariant world :=
  (@Reachable.induction driver (fun world => IssuersPinned world ∧ Holds invariant world)
    ⟨by simp [IssuersPinned, World.init], by simp [Holds, World.init]⟩
    (fun step ⟨pinnedOnly, holds⟩ =>
      ⟨step.issuersPinned pinnedOnly, handleInvariant.holds_step step pinnedOnly holds⟩)
    world reachable).2

end HandleInvariant

end GdrCopy
