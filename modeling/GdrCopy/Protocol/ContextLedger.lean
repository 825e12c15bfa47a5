/-
# At most one driver context per instance

Every context `gdr_open` handed to the instance and not yet passed to `gdr_close` is the one
`_handle` holds, and there is none while `_handle` is `None` or NULL. The statement is a
balance between the trace and one field. It is proved for each step and so for every run:
a failed open, a failed close and a reopen after close are steps like any other, and the
calls of handles and module functions neither open nor close.
-/

import GdrCopy.Protocol.World

namespace GdrCopy

namespace GDRCopy

/-- One if `_handle` is the context `g`, which its truth value needs to be non-NULL. -/
def held (gdr : GDRCopy) (g : Nat) : Nat := if gdr.handle = some g ∧ g ≠ 0 then 1 else 0

theorem held_of_not_truthy {gdr : GDRCopy} (free : truthy gdr.handle = false) (g : Nat) :
    gdr.held g = 0 := by
  rcases handle : gdr.handle with _ | h <;> simp_all [held]

end GDRCopy

/-- Counted per value, the contexts obtained from `gdr_open` and not yet passed to
`gdr_close` are exactly the one the instance holds. -/
def ContextLedger (world : World) : Prop :=
  ∀ g, opened g world.trace = closed g world.trace + world.gdr.held g

namespace GDRHandle

variable {driver : Driver} {issuer : Issuer} {gdr : GDRCopy} {self self' : GDRHandle}
  {trace : Trace} {event : Event}

theorem Call.not_opens (call : Call driver issuer gdr self trace event self') (g : Nat) :
    event.opens g = false := by
  cases call <;> rfl

theorem Call.not_closes (call : Call driver issuer gdr self trace event self') (g : Nat) :
    event.closes g = false := by
  cases call <;> rfl

end GDRHandle

variable {driver : Driver} {world world' : World}

theorem contextLedger_init : ContextLedger World.init := by
  simp [ContextLedger, World.init, GDRCopy.init, GDRCopy.held]

theorem Step.contextLedger (step : Step driver world world') (ledger : ContextLedger world) :
    ContextLedger world' := by
  intro g
  have before := ledger g
  cases step with
  | «open» free =>
      have none := GDRCopy.held_of_not_truthy free g
      by_cases same : (driver world.trace .gdrOpen : Nat) = g <;>
        simp [Event.opens, Event.closes, GDRCopy.held, same] <;> omega
  | @close closing held live =>
      by_cases same : closing = g <;> simp_all [Event.opens, Event.closes, GDRCopy.held]
  | handle found call =>
      simpa [call.not_opens, call.not_closes] using before
  | _ => simpa [Event.opens, Event.closes] using before

theorem contextLedger_reachable (reachable : Reachable driver world) : ContextLedger world :=
  reachable.induction contextLedger_init Step.contextLedger

/-- Whatever the program and whatever the driver answers, the contexts the instance obtained
from `gdr_open` and has not passed to `gdr_close` are exactly the one `_handle` holds, and
none while it is unset; so no context is closed twice and two are never held. `open` refuses
without calling the driver while a context is held, and the three methods that need one
refuse without calling it while none is. -/
theorem gdrCopy_holds_at_most_one_context (driver : Driver) (ops : List Op) :
    let world := World.init.run driver ops
    (∀ g, opened g world.trace = closed g world.trace + world.gdr.held g) ∧
    (truthy world.gdr.handle → ∀ issuer,
      GDRCopy.open driver issuer world.gdr world.trace =
        ⟨.error (.runtimeError "GDRCopy is already open"), world.gdr, world.trace⟩) ∧
    (truthy world.gdr.handle = false → ∀ issuer addr size p2pToken vaSpace flags attr,
      GDRCopy.pinBuffer addr size p2pToken vaSpace driver issuer world.gdr world.trace =
          ⟨.error (.runtimeError "GDRCopy is not open"), world.gdr, world.trace⟩ ∧
        GDRCopy.pinBufferV2 addr size flags driver issuer world.gdr world.trace =
          ⟨.error (.runtimeError "GDRCopy is not open"), world.gdr, world.trace⟩ ∧
        GDRCopy.getAttribute attr driver issuer world.gdr world.trace =
          ⟨.error (.runtimeError "GDRCopy is not open"), world.gdr, world.trace⟩) :=
  ⟨contextLedger_reachable (World.reachable_run ops),
    fun held _ => GDRCopy.open_of_truthy held,
    fun free _ addr size p2pToken vaSpace flags attr =>
      ⟨GDRCopy.pinBuffer_of_not_truthy addr size p2pToken vaSpace free,
        GDRCopy.pinBufferV2_of_not_truthy addr size flags free,
        GDRCopy.getAttribute_of_not_truthy attr free⟩⟩

end GdrCopy
