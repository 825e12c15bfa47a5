/-
# The native gdrapi surface behind the Python bindings

`gdrcopy.py` declares the gdrapi functions to cffi and calls each through `_lib`. The kernel
driver behind them is not modelled. A `Driver` is any function that answers a call from the
calls issued before it, so a theorem over every driver covers every return code, every value
written to an out-parameter and every adaptive misbehaviour. Every issued call is recorded in
a trace, newest first, with the wrapper object that issued it; that tag is bookkeeping of the
model, the driver sees nothing of the Python objects.

Arguments are recorded as the C values cffi produced. The two fields of `gdr_info_v2_t` that
the bindings never read (`tm_cycles`, `cycles_per_ms`) are left out of the reply.
-/

namespace GdrCopy

/-- `GDR_PIN_FLAG_DEFAULT`, the default `flags` of `pin_buffer_v2`. -/
def gdrPinFlagDefault : Int := 0

/-- `GDR_PIN_FLAG_FORCE_PCIE`, which asks the driver to map over PCIe. -/
def gdrPinFlagForcePcie : Int := 1

/-- `gdr_mh_t`: the pin token, a struct holding one `unsigned long`. -/
structure GdrMh where
  h : Nat
  deriving DecidableEq, Repr

/-- The fields of `gdr_info_v2_t` that `get_info` reads. The two one-bit fields are kept as
the unsigned values the bitfields hold. -/
structure GdrInfoV2 where
  va : Nat
  mappedSize : Nat
  pageSize : Nat
  mapped : Nat
  wcMapping : Nat
  mappingType : Nat
  deriving DecidableEq, Repr

/-- One call into `libgdrapi.so`, with the C arguments cffi passed. Out-parameters are not
arguments here: what the driver writes to them is part of the reply. -/
inductive DriverCall
  | gdrOpen
  | gdrClose (g : Nat)
  | gdrPinBuffer (g addr size p2pToken vaSpace : Nat)
  | gdrPinBufferV2 (g addr size flags : Nat)
  | gdrUnpinBuffer (g : Nat) (handle : GdrMh)
  | gdrGetCallbackFlag (g : Nat) (handle : GdrMh)
  | gdrGetInfoV2 (g : Nat) (handle : GdrMh)
  | gdrMap (g : Nat) (handle : GdrMh) (size : Nat)
  | gdrUnmap (g : Nat) (handle : GdrMh) (va size : Nat)
  | gdrCopyToMapping (handle : GdrMh) (mapDPtr hPtr size : Nat)
  | gdrCopyFromMapping (handle : GdrMh) (hPtr mapDPtr size : Nat)
  | gdrRuntimeGetVersion
  | gdrDriverGetVersion (g : Nat)
  | gdrGetAttribute (g attr : Nat)
  deriving DecidableEq, Repr

namespace DriverCall

/-- What a call hands back: its `int` return value, paired with what it wrote to its
out-parameters. `gdr_open` returns the new `gdr_t` itself, NULL (`0`) on failure, and
`gdr_runtime_get_version` returns nothing but its two out-parameters. -/
def Reply : DriverCall → Type
  | .gdrOpen => Nat
  | .gdrPinBuffer .. | .gdrPinBufferV2 .. => Int × GdrMh
  | .gdrGetCallbackFlag .. | .gdrGetAttribute .. => Int × Int
  | .gdrGetInfoV2 .. => Int × GdrInfoV2
  | .gdrMap .. => Int × Nat
  | .gdrRuntimeGetVersion => Int × Int
  | .gdrDriverGetVersion .. => Int × Int × Int
  | .gdrClose .. | .gdrUnpinBuffer .. | .gdrUnmap .. | .gdrCopyToMapping ..
  | .gdrCopyFromMapping .. => Int

/-- The `gdr_t` argument of a call, if it takes one. -/
def context : DriverCall → Option Nat
  | .gdrClose g | .gdrPinBuffer g .. | .gdrPinBufferV2 g .. | .gdrUnpinBuffer g _
  | .gdrGetCallbackFlag g _ | .gdrGetInfoV2 g _ | .gdrMap g .. | .gdrUnmap g ..
  | .gdrDriverGetVersion g | .gdrGetAttribute g _ => some g
  | .gdrOpen | .gdrCopyToMapping .. | .gdrCopyFromMapping .. | .gdrRuntimeGetVersion => none

/-- The pin token a call passes, if it takes one. -/
def token : DriverCall → Option GdrMh
  | .gdrUnpinBuffer _ handle | .gdrGetCallbackFlag _ handle | .gdrGetInfoV2 _ handle
  | .gdrMap _ handle _ | .gdrUnmap _ handle .. | .gdrCopyToMapping handle ..
  | .gdrCopyFromMapping handle .. => some handle
  | _ => none

end DriverCall

/-- The wrapper object a call was issued from: the `GDRCopy` instance, the handle at a
position of the list of handles it pinned, or a module-level function. -/
inductive Issuer
  | context
  | handle (index : Nat)
  | module
  deriving DecidableEq, Repr

/-- One issued call and the driver's reply to it. -/
structure Event where
  issuer : Issuer
  call : DriverCall
  reply : call.Reply

/-- The calls issued so far, newest first. -/
abbrev Trace := List Event

/-- A driver answers each call from the calls issued before it. -/
def Driver := Trace → (call : DriverCall) → call.Reply

end GdrCopy
