/-
# `GDRCopy` and the module-level functions

The `GDRCopy` instance owns the driver context. `open`, `close` and `__del__` are the only
methods that change it; `pin_buffer`, `pin_buffer_v2` and `get_attribute` test it and refuse
to call the driver without it. The two module-level functions, `get_version` and
`get_driver_version`, touch no object; the second reads the context of the instance it is
given and, unlike the methods, does not test it.

Each method is followed by one lemma saying what a run of it does.
-/

import GdrCopy.Binding.Handle

namespace GdrCopy

namespace GDRCopy

/-- `GDRCopy.__init__`. -/
def init : GDRCopy := ⟨none⟩

/-- `GDRCopy.open`: the result of `gdr_open` is stored before it is tested. -/
def «open» : Py GDRCopy Unit := do
  let self ← Py.get
  if truthy self.handle then Py.raise (.runtimeError "GDRCopy is already open")
  let handle ← Py.call .gdrOpen
  Py.set { self with handle := some handle }
  if !truthy (some handle) then Py.raise (.gdr (.new (-1) "Failed to open GDRCopy"))

/-- `GDRCopy.close`: the context is dropped before the return code is checked. -/
def close : Py GDRCopy Unit := do
  let self ← Py.get
  if truthy self.handle then
    let ret ← Py.call (.gdrClose (← Py.lift (toPointer "gdr_t" self.handle)))
    Py.set { self with handle := none }
    Py.lift (checkError ret "Failed to close GDRCopy")

/-- `GDRCopy.__del__`. -/
def del : Py GDRCopy Unit := close

/-- `GDRCopy.pin_buffer`; `p2p_token` and `va_space` default to `0`. -/
def pinBuffer (addr size : Int) (p2pToken : Int := 0) (vaSpace : Int := 0) :
    Py GDRCopy GDRHandle := do
  let self ← Py.get
  if !truthy self.handle then Py.raise (.runtimeError "GDRCopy is not open")
  let reply ← Py.call (.gdrPinBuffer (← Py.lift (toPointer "gdr_t" self.handle))
    (← Py.lift (toUnsigned "unsigned long" 64 addr)) (← Py.lift (toUnsigned "size_t" 64 size))
    (← Py.lift (toUnsigned "uint64_t" 64 p2pToken)) (← Py.lift (toUnsigned "uint32_t" 32 vaSpace)))
  Py.lift (checkError reply.1 "Failed to pin buffer")
  return GDRHandle.init reply.2

/-- `GDRCopy.pin_buffer_v2`; `flags` defaults to `GDR_PIN_FLAG_DEFAULT`. -/
def pinBufferV2 (addr size : Int) (flags : Int := gdrPinFlagDefault) :
    Py GDRCopy GDRHandle := do
  let self ← Py.get
  if !truthy self.handle then Py.raise (.runtimeError "GDRCopy is not open")
  let reply ← Py.call (.gdrPinBufferV2 (← Py.lift (toPointer "gdr_t" self.handle))
    (← Py.lift (toUnsigned "unsigned long" 64 addr)) (← Py.lift (toUnsigned "size_t" 64 size))
    (← Py.lift (toUnsigned "uint32_t" 32 flags)))
  Py.lift (checkError reply.1 "Failed to pin buffer (v2)")
  return GDRHandle.init reply.2

/-- `GDRCopy.get_attribute`. cffi stores the enum `gdr_attr_t` in an `unsigned int`. -/
def getAttribute (attr : Int) : Py GDRCopy Int := do
  let self ← Py.get
  if !truthy self.handle then Py.raise (.runtimeError "GDRCopy is not open")
  let reply ← Py.call (.gdrGetAttribute (← Py.lift (toPointer "gdr_t" self.handle))
    (← Py.lift (toUnsigned "gdr_attr_t" 32 attr)))
  Py.lift (checkError reply.1 ("Failed to get attribute " ++ toString attr))
  return reply.2

/-! ### One lemma per method: what a run does -/

section Runs

variable {driver : Driver} {issuer : Issuer} {self : GDRCopy} {trace : Trace}

theorem open_of_truthy (held : truthy self.handle) :
    GDRCopy.open driver issuer self trace =
      ⟨.error (.runtimeError "GDRCopy is already open"), self, trace⟩ := by
  simp [GDRCopy.open, held]

theorem open_of_not_truthy (free : truthy self.handle = false) :
    GDRCopy.open driver issuer self trace =
      let handle : Nat := driver trace .gdrOpen
      ⟨if handle = 0 then .error (.gdr (.new (-1) "Failed to open GDRCopy")) else .ok (),
        ⟨some handle⟩, ⟨issuer, .gdrOpen, handle⟩ :: trace⟩ := by
  by_cases null : @Eq Nat (driver trace .gdrOpen) 0 <;> simp [GDRCopy.open, free, null]

theorem close_of_not_truthy (free : truthy self.handle = false) :
    close driver issuer self trace = ⟨.ok (), self, trace⟩ := by
  simp [close, free]

theorem close_of_truthy {g : Nat} (held : self.handle = some g) (live : g ≠ 0) :
    close driver issuer self trace =
      ⟨checkError (driver trace (.gdrClose g)) "Failed to close GDRCopy", ⟨none⟩,
        ⟨issuer, .gdrClose g, driver trace (.gdrClose g)⟩ :: trace⟩ := by
  simp [close, held, live]

theorem pinBuffer_of_not_truthy (addr size p2pToken vaSpace : Int)
    (free : truthy self.handle = false) :
    pinBuffer addr size p2pToken vaSpace driver issuer self trace =
      ⟨.error (.runtimeError "GDRCopy is not open"), self, trace⟩ := by
  simp [pinBuffer, free]

theorem pinBuffer_cases (addr size p2pToken vaSpace : Int) :
    (∃ error, (∀ e, error ≠ .gdr e) ∧
      pinBuffer addr size p2pToken vaSpace driver issuer self trace = ⟨.error error, self, trace⟩) ∨
    ∃ g a s p v, self.handle = some g ∧ g ≠ 0 ∧
      toUnsigned "unsigned long" 64 addr = .ok a ∧ toUnsigned "size_t" 64 size = .ok s ∧
      toUnsigned "uint64_t" 64 p2pToken = .ok p ∧ toUnsigned "uint32_t" 32 vaSpace = .ok v ∧
      pinBuffer addr size p2pToken vaSpace driver issuer self trace =
        let reply := driver trace (.gdrPinBuffer g a s p v)
        ⟨if reply.1 = 0 then .ok (GDRHandle.init reply.2)
          else .error (failure reply.1 "Failed to pin buffer"), self,
          ⟨issuer, .gdrPinBuffer g a s p v, reply⟩ :: trace⟩ := by
  by_cases free : truthy self.handle = false
  · exact .inl ⟨.runtimeError "GDRCopy is not open", nofun,
      pinBuffer_of_not_truthy addr size p2pToken vaSpace free⟩
  obtain ⟨g, held, null⟩ := truthy_iff.mp (Bool.not_eq_false _ ▸ free)
  rcases toUnsigned_cases "unsigned long" 64 addr with ha | ⟨a, ha⟩
  · exact .inl ⟨.overflowError "unsigned long", nofun, by simp [pinBuffer, held, null, ha]⟩
  rcases toUnsigned_cases "size_t" 64 size with hs | ⟨s, hs⟩
  · exact .inl ⟨.overflowError "size_t", nofun, by simp [pinBuffer, held, null, ha, hs]⟩
  rcases toUnsigned_cases "uint64_t" 64 p2pToken with hp | ⟨p, hp⟩
  · exact .inl ⟨.overflowError "uint64_t", nofun, by simp [pinBuffer, held, null, ha, hs, hp]⟩
  rcases toUnsigned_cases "uint32_t" 32 vaSpace with hv | ⟨v, hv⟩
  · exact .inl ⟨.overflowError "uint32_t", nofun, by simp [pinBuffer, held, null, ha, hs, hp, hv]⟩
  refine .inr ⟨g, a, s, p, v, held, null, ha, hs, hp, hv, ?_⟩
  by_cases hret : (driver trace (.gdrPinBuffer g a s p v)).1 = 0 <;>
    simp [pinBuffer, held, null, ha, hs, hp, hv, checkError_eq, hret]

theorem pinBufferV2_of_not_truthy (addr size flags : Int) (free : truthy self.handle = false) :
    pinBufferV2 addr size flags driver issuer self trace =
      ⟨.error (.runtimeError "GDRCopy is not open"), self, trace⟩ := by
  simp [pinBufferV2, free]

theorem pinBufferV2_cases (addr size flags : Int) :
    (∃ error, (∀ e, error ≠ .gdr e) ∧
      pinBufferV2 addr size flags driver issuer self trace = ⟨.error error, self, trace⟩) ∨
    ∃ g a s f, self.handle = some g ∧ g ≠ 0 ∧
      toUnsigned "unsigned long" 64 addr = .ok a ∧ toUnsigned "size_t" 64 size = .ok s ∧
      toUnsigned "uint32_t" 32 flags = .ok f ∧
      pinBufferV2 addr size flags driver issuer self trace =
        let reply := driver trace (.gdrPinBufferV2 g a s f)
        ⟨if reply.1 = 0 then .ok (GDRHandle.init reply.2)
          else .error (failure reply.1 "Failed to pin buffer (v2)"), self,
          ⟨issuer, .gdrPinBufferV2 g a s f, reply⟩ :: trace⟩ := by
  by_cases free : truthy self.handle = false
  · exact .inl ⟨.runtimeError "GDRCopy is not open", nofun,
      pinBufferV2_of_not_truthy addr size flags free⟩
  obtain ⟨g, held, null⟩ := truthy_iff.mp (Bool.not_eq_false _ ▸ free)
  rcases toUnsigned_cases "unsigned long" 64 addr with ha | ⟨a, ha⟩
  · exact .inl ⟨.overflowError "unsigned long", nofun, by simp [pinBufferV2, held, null, ha]⟩
  rcases toUnsigned_cases "size_t" 64 size with hs | ⟨s, hs⟩
  · exact .inl ⟨.overflowError "size_t", nofun, by simp [pinBufferV2, held, null, ha, hs]⟩
  rcases toUnsigned_cases "uint32_t" 32 flags with hf | ⟨f, hf⟩
  · exact .inl ⟨.overflowError "uint32_t", nofun, by simp [pinBufferV2, held, null, ha, hs, hf]⟩
  refine .inr ⟨g, a, s, f, held, null, ha, hs, hf, ?_⟩
  by_cases hret : (driver trace (.gdrPinBufferV2 g a s f)).1 = 0 <;>
    simp [pinBufferV2, held, null, ha, hs, hf, checkError_eq, hret]

theorem getAttribute_of_not_truthy (attr : Int) (free : truthy self.handle = false) :
    getAttribute attr driver issuer self trace =
      ⟨.error (.runtimeError "GDRCopy is not open"), self, trace⟩ := by
  simp [getAttribute, free]

theorem getAttribute_cases (attr : Int) :
    (getAttribute attr driver issuer self trace).Quiet self trace ∨
    ∃ g a, self.handle = some g ∧ g ≠ 0 ∧ toUnsigned "gdr_attr_t" 32 attr = .ok a ∧
      getAttribute attr driver issuer self trace =
        let reply := driver trace (.gdrGetAttribute g a)
        ⟨if reply.1 = 0 then .ok reply.2
          else .error (failure reply.1 ("Failed to get attribute " ++ toString attr)), self,
          ⟨issuer, .gdrGetAttribute g a, reply⟩ :: trace⟩ := by
  by_cases free : truthy self.handle = false
  · exact .inl (by simp [getAttribute_of_not_truthy attr free, Outcome.Quiet])
  obtain ⟨g, held, null⟩ := truthy_iff.mp (Bool.not_eq_false _ ▸ free)
  rcases toUnsigned_cases "gdr_attr_t" 32 attr with ha | ⟨a, ha⟩
  · exact .inl (by simp [getAttribute, held, null, ha, Outcome.Quiet])
  refine .inr ⟨g, a, held, null, ha, ?_⟩
  by_cases hret : (driver trace (.gdrGetAttribute g a)).1 = 0 <;>
    simp [getAttribute, held, null, ha, checkError_eq, hret]

end Runs

end GDRCopy

/-- `get_version()`: the runtime version needs no context. -/
def getVersion : Py Unit (Int × Int) := Py.call .gdrRuntimeGetVersion

/-- `get_driver_version(gdr_handle)`: the context of `gdr_handle` is passed as it is. -/
def getDriverVersion (gdrHandle : GDRCopy) : Py Unit (Int × Int) := do
  let reply ← Py.call (.gdrDriverGetVersion (← Py.lift (toPointer "gdr_t" gdrHandle.handle)))
  Py.lift (checkError reply.1 "Failed to get driver version")
  return reply.2

theorem getVersion_apply (driver : Driver) (issuer : Issuer) (trace : Trace) :
    getVersion driver issuer () trace =
      ⟨.ok (driver trace .gdrRuntimeGetVersion), (),
        ⟨issuer, .gdrRuntimeGetVersion, driver trace .gdrRuntimeGetVersion⟩ :: trace⟩ := rfl

theorem getDriverVersion_cases (driver : Driver) (issuer : Issuer) (gdrHandle : GDRCopy)
    (trace : Trace) :
    (getDriverVersion gdrHandle driver issuer () trace).Quiet () trace ∨
    ∃ g, gdrHandle.handle = some g ∧
      getDriverVersion gdrHandle driver issuer () trace =
        let reply := driver trace (.gdrDriverGetVersion g)
        ⟨if reply.1 = 0 then .ok reply.2
          else .error (failure reply.1 "Failed to get driver version"), (),
          ⟨issuer, .gdrDriverGetVersion g, reply⟩ :: trace⟩ := by
  rcases held : gdrHandle.handle with _ | g
  · simp [getDriverVersion, held, Outcome.Quiet]
  · by_cases hret : (driver trace (.gdrDriverGetVersion g)).1 = 0 <;>
      simp [getDriverVersion, held, checkError_eq, hret]

end GdrCopy
