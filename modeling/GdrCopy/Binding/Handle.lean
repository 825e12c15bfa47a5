/-
# `GDRHandle`: one pinned buffer and its mapping

A handle holds the pin token, an optional mapping `(_mapped_ptr, _mapped_size)` and the
cached info dictionary. Each method below follows its body in `gdrcopy.py` statement by
statement. The owning `GDRCopy` is passed to every method as it stands when the method runs,
since `self._gdr._handle` is read at that moment and never checked.

The `hasattr` guards of `__del__`, `unpin` and `unmap` always hold, because `__init__`
assigns every field they test, and are left out. A `gdr_mh_t` cdata is always true, so
`if self._handle` tests only for `None`.
-/

import GdrCopy.Binding.Runtime
import Mathlib.Logic.Relation

namespace GdrCopy

/-- The fields of a `GDRCopy` instance. `_handle` is `None`, or the `gdr_t` cdata that
`gdr_open` returned, which is NULL after a failed open. -/
structure GDRCopy where
  handle : Option Nat
  deriving DecidableEq, Repr

/-- The dictionary `get_info` builds and caches. -/
structure Info where
  va : Nat
  mappedSize : Nat
  pageSize : Nat
  mapped : Bool
  wcMapping : Bool
  mappingType : Nat
  deriving DecidableEq, Repr

/-- The dictionary of `get_info`, read off a `gdr_info_v2_t`; the bitfields go through `bool`. -/
def Info.ofV2 (info : GdrInfoV2) : Info :=
  ⟨info.va, info.mappedSize, info.pageSize, info.mapped != 0, info.wcMapping != 0,
    info.mappingType⟩

/-- The fields of a `GDRHandle`: the pin token, the mapping record and the cached info. -/
structure GDRHandle where
  handle : Option GdrMh
  mappedPtr : Option Nat
  mappedSize : Int
  info : Option Info
  deriving DecidableEq, Repr

namespace GDRHandle

/-- `GDRHandle.__init__(gdr, handle)`. -/
def init (handle : GdrMh) : GDRHandle := ⟨some handle, none, 0, none⟩

/-- `GDRHandle.unpin`: the token is dropped before the return code is checked. -/
def unpin (gdr : GDRCopy) : Py GDRHandle Unit := do
  let self ← Py.get
  match self.handle with
  | some handle =>
      let ret ← Py.call (.gdrUnpinBuffer (← Py.lift (toPointer "gdr_t" gdr.handle)) handle)
      Py.set { self with handle := none }
      Py.lift (checkError ret "Failed to unpin buffer")
  | none => pure ()

/-- The body of `get_info` under `if not self._info`: a fresh `gdr_get_info_v2` query whose
dictionary is cached on success. -/
def queryInfo (gdr : GDRCopy) : Py GDRHandle Info := do
  let self ← Py.get
  let reply ← Py.call
    (.gdrGetInfoV2 (← Py.lift (toPointer "gdr_t" gdr.handle)) (← Py.lift (toStruct self.handle)))
  Py.lift (checkError reply.1 "Failed to get info")
  Py.set { self with info := some (Info.ofV2 reply.2) }
  return Info.ofV2 reply.2

/-- `GDRHandle.get_info`: a cached dictionary is returned without asking the driver. -/
def getInfo (gdr : GDRCopy) : Py GDRHandle Info := do
  let self ← Py.get
  match self.info with
  | some info => return info
  | none => queryInfo gdr

/-- `GDRHandle.map`: the mapping is recorded only after the return code was checked. -/
def map (gdr : GDRCopy) (size : Int) : Py GDRHandle Nat := do
  let self ← Py.get
  if truthy self.mappedPtr then Py.raise (.runtimeError "Buffer is already mapped")
  let reply ← Py.call (.gdrMap (← Py.lift (toPointer "gdr_t" gdr.handle))
    (← Py.lift (toStruct self.handle)) (← Py.lift (toUnsigned "size_t" 64 size)))
  Py.lift (checkError reply.1 "Failed to map buffer")
  Py.set { self with mappedPtr := some reply.2, mappedSize := size }
  return reply.2

/-- `GDRHandle.unmap`: the record is cleared before the return code is checked. -/
def unmap (gdr : GDRCopy) : Py GDRHandle Unit := do
  let self ← Py.get
  if truthy self.mappedPtr then
    let ret ← Py.call (.gdrUnmap (← Py.lift (toPointer "gdr_t" gdr.handle))
      (← Py.lift (toStruct self.handle)) (← Py.lift (toPointer "void *" self.mappedPtr))
      (← Py.lift (toUnsigned "size_t" 64 self.mappedSize)))
    Py.set { self with mappedPtr := none, mappedSize := 0 }
    Py.lift (checkError ret "Failed to unmap buffer")

/-- `GDRHandle.copy_to_mapping`. -/
def copyToMapping (hostPtr size : Int) : Py GDRHandle Unit := do
  let self ← Py.get
  if !truthy self.mappedPtr then Py.raise (.runtimeError "Buffer is not mapped")
  let hPtr := castPointer hostPtr
  let ret ← Py.call (.gdrCopyToMapping (← Py.lift (toStruct self.handle))
    (← Py.lift (toPointer "void *" self.mappedPtr)) hPtr
    (← Py.lift (toUnsigned "size_t" 64 size)))
  Py.lift (checkError ret "Failed to copy to mapping")

/-- `GDRHandle.copy_from_mapping`. -/
def copyFromMapping (hostPtr size : Int) : Py GDRHandle Unit := do
  let self ← Py.get
  if !truthy self.mappedPtr then Py.raise (.runtimeError "Buffer is not mapped")
  let hPtr := castPointer hostPtr
  let ret ← Py.call (.gdrCopyFromMapping (← Py.lift (toStruct self.handle)) hPtr
    (← Py.lift (toPointer "void *" self.mappedPtr)) (← Py.lift (toUnsigned "size_t" 64 size)))
  Py.lift (checkError ret "Failed to copy from mapping")

/-- `GDRHandle.get_callback_flag`. -/
def getCallbackFlag (gdr : GDRCopy) : Py GDRHandle Bool := do
  let self ← Py.get
  let reply ← Py.call (.gdrGetCallbackFlag (← Py.lift (toPointer "gdr_t" gdr.handle))
    (← Py.lift (toStruct self.handle)))
  Py.lift (checkError reply.1 "Failed to get callback flag")
  return reply.2 != 0

/-- `GDRHandle.__del__`: an exception from `unmap` leaves `unpin` unrun. -/
def del (gdr : GDRCopy) : Py GDRHandle Unit := do
  unmap gdr
  unpin gdr

/-! ### The calls a handle method makes -/

section Calls

variable (driver : Driver) (issuer : Issuer) (gdr : GDRCopy) (self : GDRHandle) (trace : Trace)

/-- One native call made by a handle method: the event recorded, with the driver's reply,
and the fields the method leaves once it returns or raises after that call. The premises
are what the method checked, or what cffi needed, before calling. -/
inductive Call : Event → GDRHandle → Prop
  | unpin {g handle} : gdr.handle = some g → self.handle = some handle →
      Call ⟨issuer, .gdrUnpinBuffer g handle, driver trace (.gdrUnpinBuffer g handle)⟩
        { self with handle := none }
  | queryInfo {g handle} : self.info = none → gdr.handle = some g → self.handle = some handle →
      Call ⟨issuer, .gdrGetInfoV2 g handle, driver trace (.gdrGetInfoV2 g handle)⟩
        (if (driver trace (.gdrGetInfoV2 g handle)).1 = 0 then
          { self with info := some (Info.ofV2 (driver trace (.gdrGetInfoV2 g handle)).2) }
        else self)
  | map {g handle s} (size : Int) : truthy self.mappedPtr = false → gdr.handle = some g →
      self.handle = some handle → toUnsigned "size_t" 64 size = .ok s →
      Call ⟨issuer, .gdrMap g handle s, driver trace (.gdrMap g handle s)⟩
        (if (driver trace (.gdrMap g handle s)).1 = 0 then
          { self with mappedPtr := some (driver trace (.gdrMap g handle s)).2, mappedSize := size }
        else self)
  | unmap {g handle va s} : self.mappedPtr = some va → va ≠ 0 → gdr.handle = some g →
      self.handle = some handle → toUnsigned "size_t" 64 self.mappedSize = .ok s →
      Call ⟨issuer, .gdrUnmap g handle va s, driver trace (.gdrUnmap g handle va s)⟩
        { self with mappedPtr := none, mappedSize := 0 }
  | copyToMapping {handle va} (hPtr s : Nat) : self.handle = some handle →
      self.mappedPtr = some va → va ≠ 0 →
      Call ⟨issuer, .gdrCopyToMapping handle va hPtr s,
        driver trace (.gdrCopyToMapping handle va hPtr s)⟩ self
  | copyFromMapping {handle va} (hPtr s : Nat) : self.handle = some handle →
      self.mappedPtr = some va → va ≠ 0 →
      Call ⟨issuer, .gdrCopyFromMapping handle hPtr va s,
        driver trace (.gdrCopyFromMapping handle hPtr va s)⟩ self
  | getCallbackFlag {g handle} : gdr.handle = some g → self.handle = some handle →
      Call ⟨issuer, .gdrGetCallbackFlag g handle, driver trace (.gdrGetCallbackFlag g handle)⟩
        self

/-- A handle's fields and the trace, before and after one `Call`. -/
def CallStep (before after : GDRHandle × Trace) : Prop :=
  ∃ event, Call driver issuer gdr before.1 before.2 event after.1 ∧ after.2 = event :: before.2

/-- The calls one run of a method made, in order. -/
abbrev Calls := Relation.ReflTransGen (CallStep driver issuer gdr)

variable {driver issuer gdr self trace}

theorem Call.calls {event : Event} {self' : GDRHandle}
    (call : Call driver issuer gdr self trace event self') :
    Calls driver issuer gdr (self, trace) (self', event :: trace) :=
  .single ⟨event, call, rfl⟩

theorem Call.issuer_eq {event : Event} {self' : GDRHandle}
    (call : Call driver issuer gdr self trace event self') : event.issuer = issuer := by
  cases call <;> rfl

theorem calls_of_quiet {α : Type} {outcome : Outcome GDRHandle α}
    (quiet : outcome.Quiet self trace) :
    Calls driver issuer gdr (self, trace) (outcome.self, outcome.trace) := by
  rw [quiet.1, quiet.2.1]

end Calls

/-! ### One lemma per method: what a run does -/

section Runs

variable {driver : Driver} {issuer : Issuer} {gdr : GDRCopy} {self : GDRHandle} {trace : Trace}

theorem unpin_of_none (unpinned : self.handle = none) :
    unpin gdr driver issuer self trace = ⟨.ok (), self, trace⟩ := by
  simp [unpin, unpinned]

theorem unpin_cases :
    (unpin gdr driver issuer self trace).Quiet self trace ∨
    ∃ g handle, gdr.handle = some g ∧ self.handle = some handle ∧
      unpin gdr driver issuer self trace =
        ⟨checkError (driver trace (.gdrUnpinBuffer g handle)) "Failed to unpin buffer",
          { self with handle := none },
          ⟨issuer, .gdrUnpinBuffer g handle, driver trace (.gdrUnpinBuffer g handle)⟩ ::
            trace⟩ := by
  rcases hs : self.handle with _ | handle <;> rcases hg : gdr.handle with _ | g <;>
    simp [unpin, hs, hg, Outcome.Quiet]

theorem unpin_calls :
    Calls driver issuer gdr (self, trace)
      ((unpin gdr driver issuer self trace).self, (unpin gdr driver issuer self trace).trace) := by
  rcases unpin_cases with quiet | ⟨g, handle, hg, hs, run⟩
  · exact calls_of_quiet quiet
  · rw [run]
    exact (Call.unpin hg hs).calls

theorem queryInfo_cases :
    (queryInfo gdr driver issuer self trace).Quiet self trace ∨
    ∃ g handle, gdr.handle = some g ∧ self.handle = some handle ∧
      queryInfo gdr driver issuer self trace =
        let reply := driver trace (.gdrGetInfoV2 g handle)
        let event : Event := ⟨issuer, .gdrGetInfoV2 g handle, reply⟩
        if reply.1 = 0 then
          ⟨.ok (Info.ofV2 reply.2), { self with info := some (Info.ofV2 reply.2) }, event :: trace⟩
        else ⟨.error (failure reply.1 "Failed to get info"), self, event :: trace⟩ := by
  rcases hs : self.handle with _ | handle <;> rcases hg : gdr.handle with _ | g <;>
    simp [queryInfo, hs, hg, Outcome.Quiet]
  by_cases hret : (driver trace (.gdrGetInfoV2 g handle)).1 = 0 <;> simp [checkError_eq, hret]

theorem queryInfo_calls (uncached : self.info = none) :
    Calls driver issuer gdr (self, trace)
      ((queryInfo gdr driver issuer self trace).self,
        (queryInfo gdr driver issuer self trace).trace) := by
  rcases queryInfo_cases with quiet | ⟨g, handle, hg, hs, run⟩
  · exact calls_of_quiet quiet
  · have call := @Call.queryInfo driver issuer gdr self trace _ _ uncached hg hs
    rw [run]
    by_cases hret : (driver trace (.gdrGetInfoV2 g handle)).1 = 0 <;>
      simpa [hret] using call.calls

theorem getInfo_of_cached {info : Info} (cached : self.info = some info) :
    getInfo gdr driver issuer self trace = ⟨.ok info, self, trace⟩ := by
  simp [getInfo, cached]

theorem getInfo_of_uncached (uncached : self.info = none) :
    getInfo gdr driver issuer self trace = queryInfo gdr driver issuer self trace := by
  simp [getInfo, uncached]

theorem getInfo_calls :
    Calls driver issuer gdr (self, trace)
      ((getInfo gdr driver issuer self trace).self,
        (getInfo gdr driver issuer self trace).trace) := by
  rcases cached : self.info with _ | info
  · simpa [getInfo_of_uncached cached] using queryInfo_calls cached
  · simpa [getInfo_of_cached cached] using .refl

theorem map_of_truthy (size : Int) (mapped : truthy self.mappedPtr) :
    map gdr size driver issuer self trace =
      ⟨.error (.runtimeError "Buffer is already mapped"), self, trace⟩ := by
  simp [map, mapped]

/-- Only the guard raises "Buffer is already mapped": past it, cffi raises `TypeError` or
`OverflowError` and `_check_error` a `GDRError`. -/
theorem map_ne_already_mapped (size : Int) (unmapped : truthy self.mappedPtr = false) :
    (map gdr size driver issuer self trace).result ≠
      .error (.runtimeError "Buffer is already mapped") := by
  rcases hs : self.handle with _ | handle <;> rcases hg : gdr.handle with _ | g <;>
    simp [map, hs, hg, unmapped, toUnsigned]
  split_ifs
  · by_cases hret : (driver trace (.gdrMap g handle size.toNat)).1 = 0 <;>
      simp [checkError_eq, hret, failure]
  · exact nofun

theorem map_cases (size : Int) :
    (map gdr size driver issuer self trace).Quiet self trace ∨
    ∃ g handle s, truthy self.mappedPtr = false ∧ gdr.handle = some g ∧
      self.handle = some handle ∧ toUnsigned "size_t" 64 size = .ok s ∧
      map gdr size driver issuer self trace =
        let reply := driver trace (.gdrMap g handle s)
        let event : Event := ⟨issuer, .gdrMap g handle s, reply⟩
        if reply.1 = 0 then
          ⟨.ok reply.2, { self with mappedPtr := some reply.2, mappedSize := size }, event :: trace⟩
        else ⟨.error (failure reply.1 "Failed to map buffer"), self, event :: trace⟩ := by
  rcases mapped : truthy self.mappedPtr
  case true => simp [map_of_truthy size mapped, Outcome.Quiet]
  rcases hg : gdr.handle with _ | g
  · simp [map, mapped, hg, Outcome.Quiet]
  rcases hs : self.handle with _ | handle
  · simp [map, mapped, hg, hs, Outcome.Quiet]
  rcases toUnsigned_cases "size_t" 64 size with hz | ⟨s, hz⟩
  · simp [map, mapped, hg, hs, hz, Outcome.Quiet]
  refine .inr ⟨g, handle, s, rfl, rfl, rfl, hz, ?_⟩
  by_cases hret : (driver trace (.gdrMap g handle s)).1 = 0 <;>
    simp [map, mapped, hg, hs, hz, checkError_eq, hret]

theorem map_calls (size : Int) :
    Calls driver issuer gdr (self, trace)
      ((map gdr size driver issuer self trace).self,
        (map gdr size driver issuer self trace).trace) := by
  rcases map_cases size with quiet | ⟨g, handle, s, unmapped, hg, hs, hz, run⟩
  · exact calls_of_quiet quiet
  · have call := @Call.map driver issuer gdr self trace _ _ _ size unmapped hg hs hz
    rw [run]
    by_cases hret : (driver trace (.gdrMap g handle s)).1 = 0 <;> simpa [hret] using call.calls

theorem unmap_of_not_truthy (unmapped : truthy self.mappedPtr = false) :
    unmap gdr driver issuer self trace = ⟨.ok (), self, trace⟩ := by
  simp [unmap, unmapped]

theorem unmap_cases :
    (unmap gdr driver issuer self trace).Quiet self trace ∨
    ∃ g handle va s, self.mappedPtr = some va ∧ va ≠ 0 ∧ gdr.handle = some g ∧
      self.handle = some handle ∧ toUnsigned "size_t" 64 self.mappedSize = .ok s ∧
      unmap gdr driver issuer self trace =
        ⟨checkError (driver trace (.gdrUnmap g handle va s)) "Failed to unmap buffer",
          { self with mappedPtr := none, mappedSize := 0 },
          ⟨issuer, .gdrUnmap g handle va s, driver trace (.gdrUnmap g handle va s)⟩ :: trace⟩ := by
  rcases hm : self.mappedPtr with _ | va
  · simp [unmap, hm, Outcome.Quiet]
  by_cases hva : va = 0
  · simp [unmap, hm, hva, Outcome.Quiet]
  rcases hg : gdr.handle with _ | g
  · simp [unmap, hm, hva, hg, Outcome.Quiet]
  rcases hs : self.handle with _ | handle
  · simp [unmap, hm, hva, hg, hs, Outcome.Quiet]
  rcases toUnsigned_cases "size_t" 64 self.mappedSize with hz | ⟨s, hz⟩ <;>
    simp [unmap, hm, hva, hg, hs, hz, Outcome.Quiet]

theorem unmap_calls :
    Calls driver issuer gdr (self, trace)
      ((unmap gdr driver issuer self trace).self, (unmap gdr driver issuer self trace).trace) := by
  rcases unmap_cases with quiet | ⟨g, handle, va, s, hm, hva, hg, hs, hz, run⟩
  · exact calls_of_quiet quiet
  · rw [run]
    exact (Call.unmap hm hva hg hs hz).calls

theorem copyToMapping_cases (hostPtr size : Int) :
    (copyToMapping hostPtr size driver issuer self trace).Quiet self trace ∨
    ∃ handle va s, self.handle = some handle ∧ self.mappedPtr = some va ∧ va ≠ 0 ∧
      toUnsigned "size_t" 64 size = .ok s ∧
      copyToMapping hostPtr size driver issuer self trace =
        ⟨checkError (driver trace (.gdrCopyToMapping handle va (castPointer hostPtr) s))
            "Failed to copy to mapping", self,
          ⟨issuer, .gdrCopyToMapping handle va (castPointer hostPtr) s,
            driver trace (.gdrCopyToMapping handle va (castPointer hostPtr) s)⟩ :: trace⟩ := by
  rcases hm : self.mappedPtr with _ | va
  · simp [copyToMapping, hm, Outcome.Quiet]
  by_cases hva : va = 0
  · simp [copyToMapping, hm, hva, Outcome.Quiet]
  rcases hs : self.handle with _ | handle
  · simp [copyToMapping, hm, hva, hs, Outcome.Quiet]
  rcases toUnsigned_cases "size_t" 64 size with hz | ⟨s, hz⟩ <;>
    simp [copyToMapping, hm, hva, hs, hz, Outcome.Quiet]

theorem copyToMapping_calls (hostPtr size : Int) :
    Calls driver issuer gdr (self, trace)
      ((copyToMapping hostPtr size driver issuer self trace).self,
        (copyToMapping hostPtr size driver issuer self trace).trace) := by
  rcases copyToMapping_cases hostPtr size with quiet | ⟨handle, va, s, hs, hm, hva, -, run⟩
  · exact calls_of_quiet quiet
  · rw [run]
    exact (Call.copyToMapping _ _ hs hm hva).calls

theorem copyFromMapping_cases (hostPtr size : Int) :
    (copyFromMapping hostPtr size driver issuer self trace).Quiet self trace ∨
    ∃ handle va s, self.handle = some handle ∧ self.mappedPtr = some va ∧ va ≠ 0 ∧
      toUnsigned "size_t" 64 size = .ok s ∧
      copyFromMapping hostPtr size driver issuer self trace =
        ⟨checkError (driver trace (.gdrCopyFromMapping handle (castPointer hostPtr) va s))
            "Failed to copy from mapping", self,
          ⟨issuer, .gdrCopyFromMapping handle (castPointer hostPtr) va s,
            driver trace (.gdrCopyFromMapping handle (castPointer hostPtr) va s)⟩ :: trace⟩ := by
  rcases hm : self.mappedPtr with _ | va
  · simp [copyFromMapping, hm, Outcome.Quiet]
  by_cases hva : va = 0
  · simp [copyFromMapping, hm, hva, Outcome.Quiet]
  rcases hs : self.handle with _ | handle
  · simp [copyFromMapping, hm, hva, hs, Outcome.Quiet]
  rcases toUnsigned_cases "size_t" 64 size with hz | ⟨s, hz⟩ <;>
    simp [copyFromMapping, hm, hva, hs, hz, Outcome.Quiet]

theorem copyFromMapping_calls (hostPtr size : Int) :
    Calls driver issuer gdr (self, trace)
      ((copyFromMapping hostPtr size driver issuer self trace).self,
        (copyFromMapping hostPtr size driver issuer self trace).trace) := by
  rcases copyFromMapping_cases hostPtr size with quiet | ⟨handle, va, s, hs, hm, hva, -, run⟩
  · exact calls_of_quiet quiet
  · rw [run]
    exact (Call.copyFromMapping _ _ hs hm hva).calls

theorem getCallbackFlag_cases :
    (getCallbackFlag gdr driver issuer self trace).Quiet self trace ∨
    ∃ g handle, gdr.handle = some g ∧ self.handle = some handle ∧
      getCallbackFlag gdr driver issuer self trace =
        let reply := driver trace (.gdrGetCallbackFlag g handle)
        ⟨if reply.1 = 0 then .ok (reply.2 != 0)
          else .error (failure reply.1 "Failed to get callback flag"), self,
          ⟨issuer, .gdrGetCallbackFlag g handle, reply⟩ :: trace⟩ := by
  rcases hs : self.handle with _ | handle <;> rcases hg : gdr.handle with _ | g <;>
    simp [getCallbackFlag, hs, hg, Outcome.Quiet]
  by_cases hret : (driver trace (.gdrGetCallbackFlag g handle)).1 = 0 <;>
    simp [checkError_eq, hret]

theorem getCallbackFlag_calls :
    Calls driver issuer gdr (self, trace)
      ((getCallbackFlag gdr driver issuer self trace).self,
        (getCallbackFlag gdr driver issuer self trace).trace) := by
  rcases getCallbackFlag_cases with quiet | ⟨g, handle, hg, hs, run⟩
  · exact calls_of_quiet quiet
  · rw [run]
    exact (Call.getCallbackFlag hg hs).calls

/-- `__del__` runs `unpin` on what `unmap` left, unless `unmap` raised. -/
theorem del_eq :
    del gdr driver issuer self trace =
      match unmap gdr driver issuer self trace with
      | ⟨.ok _, self', trace'⟩ => unpin gdr driver issuer self' trace'
      | ⟨.error error, self', trace'⟩ => ⟨.error error, self', trace'⟩ := by
  simp only [del, Py.bind_apply]
  rcases unmap gdr driver issuer self trace with ⟨_ | _, _, _⟩ <;> rfl

theorem del_calls :
    Calls driver issuer gdr (self, trace)
      ((del gdr driver issuer self trace).self, (del gdr driver issuer self trace).trace) := by
  have first := @unmap_calls driver issuer gdr self trace
  rw [del_eq]
  rcases run : unmap gdr driver issuer self trace with ⟨_ | _, self', trace'⟩ <;> rw [run] at first
  · exact first
  · exact first.trans unpin_calls

end Runs

end GDRHandle

end GdrCopy
