/-
# The spec's scenario and the mock driver it runs on

The spec's scenario runs against "a mock driver that always succeeds". This one hands out a
fresh context, token and address for every request, numbered by the length of the trace so
that no two requests share one, and reports through `gdr_get_info_v2` the mapping the token
currently has. Two variants differ in one answer each: a successful `gdr_map` at NULL, and a
`gdr_unmap` that fails.
-/

import GdrCopy.Protocol.World

namespace GdrCopy

/-- The mapping of `handle` that the trace left in place: the address and size of its latest
successful `gdr_map`, unless a `gdr_unmap` of it came later. -/
def liveMapping (handle : GdrMh) : Trace → Option (Nat × Nat)
  | [] => none
  | ⟨_, .gdrMap _ h size, ((ret : Int), (va : Nat))⟩ :: rest =>
      if h = handle ∧ ret = 0 then some (va, size) else liveMapping handle rest
  | ⟨_, .gdrUnmap _ h _ _, _⟩ :: rest => if h = handle then none else liveMapping handle rest
  | _ :: rest => liveMapping handle rest

/-- What `gdr_get_info_v2` reports for a token: its live mapping, write-combined, or none. -/
def mockInfo (handle : GdrMh) (trace : Trace) : GdrInfoV2 :=
  match liveMapping handle trace with
  | some (va, size) => ⟨va, size, 65536, 1, 1, 1⟩
  | none => ⟨0, 0, 65536, 0, 0, 0⟩

/-- Every call succeeds; contexts, tokens and addresses are fresh and never NULL. -/
def mockDriver (trace : Trace) : (call : DriverCall) → call.Reply
  | .gdrOpen => trace.length + 1
  | .gdrPinBuffer .. | .gdrPinBufferV2 .. => ((0 : Int), ⟨trace.length + 1⟩)
  | .gdrGetInfoV2 _ handle => ((0 : Int), mockInfo handle trace)
  | .gdrMap .. => ((0 : Int), trace.length + 1)
  | .gdrGetCallbackFlag .. | .gdrGetAttribute .. => ((0 : Int), (0 : Int))
  | .gdrRuntimeGetVersion => ((2 : Int), (4 : Int))
  | .gdrDriverGetVersion _ => ((0 : Int), (2 : Int), (4 : Int))
  | .gdrClose _ | .gdrUnpinBuffer .. | .gdrUnmap .. | .gdrCopyToMapping ..
  | .gdrCopyFromMapping .. => (0 : Int)

/-- The mock driver, except that `gdr_map` succeeds at NULL. -/
def nullMapDriver (trace : Trace) : (call : DriverCall) → call.Reply
  | .gdrMap .. => ((0 : Int), 0)
  | call => mockDriver trace call

/-- The mock driver, except that `gdr_unmap` fails with `-EINVAL`. -/
def failingUnmapDriver (trace : Trace) : (call : DriverCall) → call.Reply
  | .gdrUnmap .. => (-22 : Int)
  | call => mockDriver trace call

/-- The spec's scenario: open, pin 4096 bytes at `0x1000` with the default flags, `get_info`,
`map(4096)`, `get_info` again, `unmap`, `unpin`, `close`. -/
def scenario : List Op :=
  [.context .open, .context (.pinBufferV2 0x1000 4096 gdrPinFlagDefault), .handle 0 .getInfo,
    .handle 0 (.map 4096), .handle 0 .getInfo, .handle 0 .unmap, .handle 0 .unpin,
    .context .close]

/-- The calls `main` of `examples/basic_example.py` makes on a driver under which none of
them fails, so that the `try` block runs to its end: `get_version`, `open`, `pin_buffer_v2` of
the CuPy array, `get_info`, `map`, `copy_from_mapping`, `copy_to_mapping`, then `close` in
`finally`. The handle is still pinned and mapped when the instance closes. -/
def BasicExample.calls (gpuPtr nbytes hostPtr : Int) : List Op :=
  [.module .getVersion, .context .open,
    .context (.pinBufferV2 gpuPtr nbytes gdrPinFlagDefault), .handle 0 .getInfo,
    .handle 0 (.map nbytes), .handle 0 (.copyFromMapping hostPtr nbytes),
    .handle 0 (.copyToMapping hostPtr nbytes), .context .close]

end GdrCopy
