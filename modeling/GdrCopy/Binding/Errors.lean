/-
# What a failed native call raises

The spec sorts what the bindings raise by condition: a guard's `RuntimeError` (not open,
already open, not mapped, already mapped), cffi's `TypeError` or `OverflowError` for an
argument it cannot convert, and a `GDRError` for a native call that failed, carrying the
call's status and a message naming the operation. `DriverCall.failure` says which exception
each reply of each driver function is owed: the `GDRError` that `_check_error` builds from a
nonzero status and the message of the wrapper that makes the call, the `GDRError` with code
-1 that `open` raises for a NULL context, and nothing for a call that succeeded or for
`gdr_runtime_get_version`, which returns no status.

Each method either stops before the driver, raising no `GDRError` and changing nothing, or
makes one call and then raises exactly what that call is owed (`Outcome.Checked`): no
`GDRError` without a failed call, no failed call left unreported, no second attempt.
`GDRHandle.__del__` makes the calls of `unmap` and then those of `unpin`, and raises the first
failure among them (`GDRHandle.del_surfaces`). `Protocol.ErrorChannel` carries this to every
program.
-/

import GdrCopy.Binding.Context

namespace GdrCopy

/-- The exception a run raised, if it raised one. -/
def raisedBy {α : Type} : Except PyError α → Option PyError
  | .error error => some error
  | .ok _ => none

/-- Whether an exception is a `GDRError`. -/
def PyError.isGdr : PyError → Bool
  | .gdr _ => true
  | _ => false

theorem isGdr_of_raisedBy_checkError {ret : Int} {msg : String} {error : PyError}
    (raised : raisedBy (checkError ret msg) = some error) : error.isGdr := by
  rw [checkError_eq] at raised
  split at raised <;> cases raised
  rfl

/-- The exception owed for a reply of a driver function: the `GDRError` the wrapper that
makes the call raises when the call failed, and nothing when it succeeded. -/
def DriverCall.failure : (call : DriverCall) → call.Reply → Option PyError
  | .gdrOpen, context =>
      if @Eq Nat context 0 then some (.gdr (.new (-1) "Failed to open GDRCopy")) else none
  | .gdrClose _, ret => raisedBy (checkError ret "Failed to close GDRCopy")
  | .gdrPinBuffer .., reply => raisedBy (checkError reply.1 "Failed to pin buffer")
  | .gdrPinBufferV2 .., reply => raisedBy (checkError reply.1 "Failed to pin buffer (v2)")
  | .gdrUnpinBuffer .., ret => raisedBy (checkError ret "Failed to unpin buffer")
  | .gdrGetCallbackFlag .., reply => raisedBy (checkError reply.1 "Failed to get callback flag")
  | .gdrGetInfoV2 .., reply => raisedBy (checkError reply.1 "Failed to get info")
  | .gdrMap .., reply => raisedBy (checkError reply.1 "Failed to map buffer")
  | .gdrUnmap .., ret => raisedBy (checkError ret "Failed to unmap buffer")
  | .gdrCopyToMapping .., ret => raisedBy (checkError ret "Failed to copy to mapping")
  | .gdrCopyFromMapping .., ret => raisedBy (checkError ret "Failed to copy from mapping")
  | .gdrRuntimeGetVersion, _ => none
  | .gdrDriverGetVersion _, reply => raisedBy (checkError reply.1 "Failed to get driver version")
  | .gdrGetAttribute _ attr, reply =>
      raisedBy (checkError reply.1 ("Failed to get attribute " ++ toString attr))

/-- The exception owed for a recorded call. -/
def Event.failure (event : Event) : Option PyError := event.call.failure event.reply

/-- What is owed for a call is a `GDRError`. -/
theorem Event.isGdr_of_failure {event : Event} {error : PyError}
    (owed : event.failure = some error) : error.isGdr := by
  rcases event with ⟨_, call, reply⟩
  cases call <;> simp only [failure, DriverCall.failure] at owed <;>
    first
    | exact isGdr_of_raisedBy_checkError owed
    | cases owed
    | (split at owed <;> cases owed; rfl)

/-- What one run of a method owes: either it was quiet, or it made one call and raised exactly
the exception owed for it. -/
def Outcome.Checked {σ α : Type} (outcome : Outcome σ α) (self : σ) (trace : Trace) : Prop :=
  outcome.Quiet self trace ∨
    ∃ event : Event, outcome.trace = event :: trace ∧ raisedBy outcome.result = event.failure

/-- The run made the calls `later`, newest first, and the `GDRError`s it raised are the
exceptions owed for them, oldest first. -/
def Outcome.Surfaces {σ α : Type} (outcome : Outcome σ α) (trace : Trace) : Prop :=
  ∃ later, outcome.trace = later ++ trace ∧
    (raisedBy outcome.result).toList.filter PyError.isGdr = later.reverse.filterMap Event.failure

section Checked

variable {σ α : Type} {self : σ} {trace : Trace} {msg : String} {event : Event} {ret : Int}
  (owed : event.failure = raisedBy (checkError ret msg))

include owed in
/-- One call whose status decides between returning `value` and raising is checked. -/
theorem Outcome.checked_of_result (value : α) (self' : σ) :
    (⟨if ret = 0 then .ok value else .error (failure ret msg), self', event :: trace⟩ :
      Outcome σ α).Checked self trace :=
  .inr ⟨event, rfl, by rw [owed, checkError_eq]; split <;> rfl⟩

include owed in
/-- So is one whose status also decides the fields it leaves. -/
theorem Outcome.checked_of_ite (value : α) (ok failed : σ) :
    (if ret = 0 then (⟨.ok value, ok, event :: trace⟩ : Outcome σ α)
      else ⟨.error (failure ret msg), failed, event :: trace⟩).Checked self trace := by
  refine .inr ⟨event, by split <;> rfl, ?_⟩
  rw [owed, checkError_eq]
  split <;> rfl

/-- A checked run surfaces what it owes: a quiet run made no call and raised no `GDRError`. -/
theorem Outcome.Checked.surfaces {outcome : Outcome σ α} (checked : outcome.Checked self trace) :
    outcome.Surfaces trace := by
  rcases checked with ⟨-, traced, notGdr⟩ | ⟨event, traced, raised⟩
  · refine ⟨[], traced, ?_⟩
    rcases result : outcome.result with error | _
    · cases error <;> simp_all [raisedBy, PyError.isGdr]
    · rfl
  · refine ⟨[event], traced, ?_⟩
    rw [raised]
    rcases owed : event.failure with _ | error
    · simp [owed]
    · simp [owed, Event.isGdr_of_failure owed]

end Checked

namespace GDRHandle

variable {driver : Driver} {issuer : Issuer} {gdr : GDRCopy} {self : GDRHandle} {trace : Trace}

theorem unpin_checked : (unpin gdr driver issuer self trace).Checked self trace := by
  rcases unpin_cases with quiet | ⟨g, handle, -, -, run⟩
  · exact .inl quiet
  · exact .inr ⟨_, by rw [run], by rw [run]; rfl⟩

theorem queryInfo_checked : (queryInfo gdr driver issuer self trace).Checked self trace := by
  rcases queryInfo_cases with quiet | ⟨g, handle, -, -, run⟩
  · exact .inl quiet
  · rw [run]
    exact Outcome.checked_of_ite (by rfl) _ _ _

theorem getInfo_checked : (getInfo gdr driver issuer self trace).Checked self trace := by
  rcases cached : self.info with _ | info
  · rw [getInfo_of_uncached cached]
    exact queryInfo_checked
  · rw [getInfo_of_cached cached]
    exact .inl ⟨rfl, rfl, nofun⟩

theorem map_checked (size : Int) : (map gdr size driver issuer self trace).Checked self trace := by
  rcases map_cases size with quiet | ⟨g, handle, s, -, -, -, -, run⟩
  · exact .inl quiet
  · rw [run]
    exact Outcome.checked_of_ite (by rfl) _ _ _

theorem unmap_checked : (unmap gdr driver issuer self trace).Checked self trace := by
  rcases unmap_cases with quiet | ⟨g, handle, va, s, -, -, -, -, -, run⟩
  · exact .inl quiet
  · exact .inr ⟨_, by rw [run], by rw [run]; rfl⟩

theorem copyToMapping_checked (hostPtr size : Int) :
    (copyToMapping hostPtr size driver issuer self trace).Checked self trace := by
  rcases copyToMapping_cases hostPtr size with quiet | ⟨handle, va, s, -, -, -, -, run⟩
  · exact .inl quiet
  · exact .inr ⟨_, by rw [run], by rw [run]; rfl⟩

theorem copyFromMapping_checked (hostPtr size : Int) :
    (copyFromMapping hostPtr size driver issuer self trace).Checked self trace := by
  rcases copyFromMapping_cases hostPtr size with quiet | ⟨handle, va, s, -, -, -, -, run⟩
  · exact .inl quiet
  · exact .inr ⟨_, by rw [run], by rw [run]; rfl⟩

theorem getCallbackFlag_checked :
    (getCallbackFlag gdr driver issuer self trace).Checked self trace := by
  rcases getCallbackFlag_cases with quiet | ⟨g, handle, -, -, run⟩
  · exact .inl quiet
  · rw [run]
    exact Outcome.checked_of_result (by rfl) _ _

/-- `__del__` surfaces the first failure of `unmap`'s call and `unpin`'s: a failed `unmap`
raises before `unpin` runs. -/
theorem del_surfaces : (del gdr driver issuer self trace).Surfaces trace := by
  obtain ⟨later, traced, raised⟩ := (@unmap_checked driver issuer gdr self trace).surfaces
  rw [del_eq]
  rcases run : unmap gdr driver issuer self trace with ⟨_ | _, self', trace'⟩ <;>
    rw [run] at traced raised <;> dsimp only at traced raised
  · exact ⟨later, traced, raised⟩
  · obtain ⟨later', traced', raised'⟩ := (@unpin_checked driver issuer gdr self' trace').surfaces
    refine ⟨later' ++ later, by rw [traced', traced, List.append_assoc], ?_⟩
    rw [raised', List.reverse_append, List.filterMap_append, ← raised]
    rfl

end GDRHandle

namespace GDRCopy

variable {driver : Driver} {issuer : Issuer} {self : GDRCopy} {trace : Trace}

theorem open_checked : (GDRCopy.open driver issuer self trace).Checked self trace := by
  by_cases holding : truthy self.handle
  · exact .inl (by simp [open_of_truthy holding, Outcome.Quiet])
  · rw [open_of_not_truthy (eq_false_of_ne_true holding)]
    refine .inr ⟨_, rfl, ?_⟩
    by_cases null : @Eq Nat (driver trace .gdrOpen) 0 <;>
      simp [null, raisedBy, Event.failure, DriverCall.failure]

theorem close_checked : (close driver issuer self trace).Checked self trace := by
  by_cases holding : truthy self.handle
  · obtain ⟨g, held, live⟩ := truthy_iff.mp holding
    exact .inr ⟨_, by rw [close_of_truthy held live], by rw [close_of_truthy held live]; rfl⟩
  · rw [close_of_not_truthy (eq_false_of_ne_true holding)]
    exact .inl ⟨rfl, rfl, nofun⟩

theorem pinBuffer_checked (addr size p2pToken vaSpace : Int) :
    (pinBuffer addr size p2pToken vaSpace driver issuer self trace).Checked self trace := by
  rcases pinBuffer_cases addr size p2pToken vaSpace with
    ⟨error, refused, run⟩ | ⟨g, a, s, p, v, -, -, -, -, -, -, run⟩
  · rw [run]
    exact .inl ⟨rfl, rfl, fun e raised => refused e (Except.error.inj raised)⟩
  · rw [run]
    exact Outcome.checked_of_result (by rfl) _ _

theorem pinBufferV2_checked (addr size flags : Int) :
    (pinBufferV2 addr size flags driver issuer self trace).Checked self trace := by
  rcases pinBufferV2_cases addr size flags with
    ⟨error, refused, run⟩ | ⟨g, a, s, f, -, -, -, -, -, run⟩
  · rw [run]
    exact .inl ⟨rfl, rfl, fun e raised => refused e (Except.error.inj raised)⟩
  · rw [run]
    exact Outcome.checked_of_result (by rfl) _ _

/-- The message names the attribute as the program passed it, which is the number cffi
converted. -/
theorem getAttribute_checked (attr : Int) :
    (getAttribute attr driver issuer self trace).Checked self trace := by
  rcases getAttribute_cases attr with quiet | ⟨g, a, -, -, converted, run⟩
  · exact .inl quiet
  · obtain ⟨nonneg, -, rfl⟩ := toUnsigned_eq_ok.mp converted
    have named : attr = (attr.toNat : Int) := (Int.toNat_of_nonneg nonneg).symm
    rw [run]
    exact Outcome.checked_of_result (by rw [named]; rfl) _ _

end GDRCopy

theorem getVersion_checked (driver : Driver) (issuer : Issuer) (trace : Trace) :
    (getVersion driver issuer () trace).Checked () trace :=
  .inr ⟨_, rfl, rfl⟩

theorem getDriverVersion_checked (driver : Driver) (issuer : Issuer) (gdrHandle : GDRCopy)
    (trace : Trace) : (getDriverVersion gdrHandle driver issuer () trace).Checked () trace := by
  rcases getDriverVersion_cases driver issuer gdrHandle trace with quiet | ⟨g, -, run⟩
  · exact .inl quiet
  · rw [run]
    exact Outcome.checked_of_result (by rfl) _ _

end GdrCopy
