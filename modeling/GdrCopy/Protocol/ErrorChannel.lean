/-
# The error channel of a program

What an operation raises is read off the same run of its method that `World.apply` keeps:
`World.raised` is the exception, if any, and `World.raises` collects those of a program, in
order. Each operation surfaces the failures of the calls it made, whatever the world it runs
on: the `GDRError`s it raised are the exceptions owed for its calls (`World.raised_surfaces`).
A program therefore reports every failed call once, in the order the calls were made, in the
operation that made it, and raises no `GDRError` that a failed call does not account for
(`raised_gdr_errors_are_failed_calls`). This is the spec's propagation policy: errors surface
synchronously to the caller of the failing operation, with no retry.
-/

import GdrCopy.Binding.Errors
import GdrCopy.Protocol.World

namespace GdrCopy

/-- What a method of the instance raises. -/
def ContextOp.raised (driver : Driver) (world : World) : ContextOp → Option PyError
  | .open => raisedBy (GDRCopy.open driver .context world.gdr world.trace).result
  | .close => raisedBy (GDRCopy.close driver .context world.gdr world.trace).result
  | .del => raisedBy (GDRCopy.del driver .context world.gdr world.trace).result
  | .pinBuffer addr size p2pToken vaSpace =>
      raisedBy (GDRCopy.pinBuffer addr size p2pToken vaSpace driver .context world.gdr
        world.trace).result
  | .pinBufferV2 addr size flags =>
      raisedBy (GDRCopy.pinBufferV2 addr size flags driver .context world.gdr world.trace).result
  | .getAttribute attr =>
      raisedBy (GDRCopy.getAttribute attr driver .context world.gdr world.trace).result

/-- What a method of a handle raises. -/
def HandleOp.raised (driver : Driver) (issuer : Issuer) (gdr : GDRCopy) (self : GDRHandle)
    (trace : Trace) : HandleOp → Option PyError
  | .unpin => raisedBy (GDRHandle.unpin gdr driver issuer self trace).result
  | .getInfo => raisedBy (GDRHandle.getInfo gdr driver issuer self trace).result
  | .map size => raisedBy (GDRHandle.map gdr size driver issuer self trace).result
  | .unmap => raisedBy (GDRHandle.unmap gdr driver issuer self trace).result
  | .copyToMapping hostPtr size =>
      raisedBy (GDRHandle.copyToMapping hostPtr size driver issuer self trace).result
  | .copyFromMapping hostPtr size =>
      raisedBy (GDRHandle.copyFromMapping hostPtr size driver issuer self trace).result
  | .getCallbackFlag => raisedBy (GDRHandle.getCallbackFlag gdr driver issuer self trace).result
  | .del => raisedBy (GDRHandle.del gdr driver issuer self trace).result

/-- What an operation raises, on the world `World.apply` runs it on. -/
def World.raised (driver : Driver) (world : World) : Op → Option PyError
  | .context op => op.raised driver world
  | .handle index op =>
      match world.handles[index]? with
      | some self => op.raised driver (.handle index) world.gdr self world.trace
      | none => none
  | .module .getVersion => raisedBy (getVersion driver .module () world.trace).result
  | .module .getDriverVersion =>
      raisedBy (getDriverVersion world.gdr driver .module () world.trace).result

/-- The exceptions a program's operations raise, in order. -/
def World.raises (driver : Driver) (world : World) : List Op → List PyError
  | [] => []
  | op :: ops => (world.raised driver op).toList ++ (world.apply driver op).raises driver ops

variable {driver : Driver}

/-- Each method of a handle surfaces what its calls are owed. -/
theorem HandleOp.raised_surfaces (op : HandleOp) (issuer : Issuer) (gdr : GDRCopy)
    (self : GDRHandle) (trace : Trace) :
    ∃ later, (op.run driver issuer gdr self trace).2 = later ++ trace ∧
      (op.raised driver issuer gdr self trace).toList.filter PyError.isGdr =
        later.reverse.filterMap Event.failure := by
  cases op with
  | unpin => exact GDRHandle.unpin_checked.surfaces
  | getInfo => exact GDRHandle.getInfo_checked.surfaces
  | map size => exact (GDRHandle.map_checked size).surfaces
  | unmap => exact GDRHandle.unmap_checked.surfaces
  | copyToMapping hostPtr size => exact (GDRHandle.copyToMapping_checked hostPtr size).surfaces
  | copyFromMapping hostPtr size =>
    exact (GDRHandle.copyFromMapping_checked hostPtr size).surfaces
  | getCallbackFlag => exact GDRHandle.getCallbackFlag_checked.surfaces
  | del => exact GDRHandle.del_surfaces

/-- Each method of the instance surfaces what its call is owed. -/
theorem ContextOp.raised_surfaces (op : ContextOp) (world : World) :
    ∃ later, (op.run driver world).trace = later ++ world.trace ∧
      (op.raised driver world).toList.filter PyError.isGdr =
        later.reverse.filterMap Event.failure := by
  cases op with
  | «open» => exact GDRCopy.open_checked.surfaces
  | close | del => exact GDRCopy.close_checked.surfaces
  | pinBuffer addr size p2pToken vaSpace =>
    exact (GDRCopy.pinBuffer_checked addr size p2pToken vaSpace).surfaces
  | pinBufferV2 addr size flags => exact (GDRCopy.pinBufferV2_checked addr size flags).surfaces
  | getAttribute attr => exact (GDRCopy.getAttribute_checked attr).surfaces

/-- Every operation, on every world, surfaces the failures of the calls it made. -/
theorem World.raised_surfaces (world : World) :
    ∀ op : Op, ∃ later, (world.apply driver op).trace = later ++ world.trace ∧
      (world.raised driver op).toList.filter PyError.isGdr =
        later.reverse.filterMap Event.failure
  | .context op => op.raised_surfaces world
  | .handle index op => by
    rcases found : world.handles[index]? with _ | self
    · exact ⟨[], by rw [apply_handle_none op found]; rfl, by simp [raised, found]⟩
    · rw [apply_handle op found]
      simpa only [raised, found] using op.raised_surfaces (.handle index) world.gdr self world.trace
  | .module .getVersion => (getVersion_checked driver .module world.trace).surfaces
  | .module .getDriverVersion =>
    (getDriverVersion_checked driver .module world.gdr world.trace).surfaces

/-- A program surfaces the failures of its calls, in the order they were made. -/
theorem World.raises_surface (world : World) (ops : List Op) :
    ∃ later, (world.run driver ops).trace = later ++ world.trace ∧
      (world.raises driver ops).filter PyError.isGdr = later.reverse.filterMap Event.failure := by
  induction ops generalizing world with
  | nil => exact ⟨[], rfl, rfl⟩
  | cons op ops more =>
    obtain ⟨first, traced, raised⟩ := world.raised_surfaces op
    obtain ⟨second, traced', raised'⟩ := more (world.apply driver op)
    refine ⟨second ++ first, by rw [World.run_cons, traced', traced, List.append_assoc], ?_⟩
    rw [World.raises, List.filter_append, raised, raised', List.reverse_append,
      List.filterMap_append]

end GdrCopy
