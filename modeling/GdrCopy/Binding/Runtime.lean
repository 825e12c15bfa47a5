/-
# What a wrapper method runs on: Python exceptions, cffi marshalling, native calls

A method of the bindings reads and writes the fields of its object, issues native calls and
either returns or raises. Python does not roll back on a raise: the fields assigned before it
stay assigned, which `unmap`, `unpin` and `close` rely on. `Py` is therefore a state monad
whose outcome carries the final fields and trace whether the method returned or raised.

cffi converts the arguments of a native call left to right before calling. `None` is no
`cdata`, so it is refused for a `gdr_t`, `void *` or `gdr_mh_t` argument with a `TypeError`,
and a Python `int` outside the range of an unsigned C type is refused with an
`OverflowError`; in both cases the driver is not called.
-/

import GdrCopy.Driver.Api
import Mathlib.Algebra.Group.Int
import Mathlib.Algebra.Group.Nat.Basic

namespace GdrCopy

/-- `GDRError`: the exception the bindings raise for a failed native call. -/
structure GDRError where
  code : Int
  message : String
  deriving DecidableEq, Repr

/-- `GDRError.__init__`: an empty message falls back to one that names the code. -/
def GDRError.new (code : Int) (message : String := "") : GDRError :=
  ⟨code, if message = "" then "GDRCopy error code: " ++ toString code else message⟩

/-- The exceptions a wrapper method can raise. cffi's own exceptions keep only the C type
they concern. -/
inductive PyError
  | gdr (error : GDRError)
  | runtimeError (message : String)
  | typeError (ctype : String)
  | overflowError (ctype : String)
  deriving DecidableEq, Repr

/-- The `GDRError` that `_check_error(ret, msg)` raises for a nonzero `ret`. -/
def failure (ret : Int) (msg : String) : PyError :=
  .gdr (.new ret (msg ++ " (error code: " ++ toString ret ++ ")"))

/-- `_check_error(ret, msg)`: a nonzero return code becomes a `GDRError` carrying it. -/
def checkError (ret : Int) (msg : String := "") : Except PyError Unit :=
  if ret ≠ 0 then .error (failure ret msg) else .ok ()

theorem checkError_eq (ret : Int) (msg : String) :
    checkError ret msg = if ret = 0 then .ok () else .error (failure ret msg) := by
  unfold checkError
  split <;> simp_all

/-- `_check_error` always passes a message, so the fallback of `GDRError.__init__` never fires:
the `GDRError` carries `ret`, and `msg` with the code appended. -/
theorem failure_eq (ret : Int) (msg : String) :
    failure ret msg = .gdr ⟨ret, msg ++ " (error code: " ++ toString ret ++ ")"⟩ := by
  have nonempty : msg ++ " (error code: " ++ toString ret ++ ")" ≠ "" := fun empty => by
    have length := congrArg String.length empty
    simp only [String.length_append, String.length_empty] at length
    have closing : ")".length = 1 := rfl
    omega
  simp [failure, GDRError.new, nonempty]

example : failure (-22) "Failed to unmap buffer" =
    .gdr ⟨-22, "Failed to unmap buffer (error code: -22)"⟩ := by
  decide

/-- The truth value of a field holding `None` or a pointer `cdata`: a NULL pointer is false. -/
def truthy : Option Nat → Bool
  | some address => address != 0
  | none => false

@[simp] theorem truthy_none : truthy none = false := rfl

@[simp] theorem truthy_some (address : Nat) : truthy (some address) = (address != 0) := rfl

theorem truthy_iff {field : Option Nat} :
    truthy field = true ↔ ∃ address, field = some address ∧ address ≠ 0 := by
  cases field <;> simp

/-- cffi's conversion to a pointer argument: a `cdata` passes its address. -/
def toPointer (ctype : String) : Option Nat → Except PyError Nat
  | some address => .ok address
  | none => .error (.typeError ctype)

/-- cffi's conversion to a `gdr_mh_t` argument, passed by value. -/
def toStruct : Option GdrMh → Except PyError GdrMh
  | some handle => .ok handle
  | none => .error (.typeError "gdr_mh_t")

/-- cffi's conversion of a Python `int` to an unsigned C type of `bits` bits. -/
def toUnsigned (ctype : String) (bits : Nat) (value : Int) : Except PyError Nat :=
  if 0 ≤ value ∧ value < 2 ^ bits then .ok value.toNat else .error (.overflowError ctype)

/-- `ffi.cast("void *", value)`: a cast truncates to the 64-bit address, it never raises. -/
def castPointer (value : Int) : Nat := (value % 2 ^ 64).toNat

@[simp] theorem toPointer_some (ctype : String) (address : Nat) :
    toPointer ctype (some address) = .ok address := rfl

@[simp] theorem toPointer_none (ctype : String) :
    toPointer ctype none = .error (.typeError ctype) := rfl

@[simp] theorem toStruct_some (handle : GdrMh) : toStruct (some handle) = .ok handle := rfl

@[simp] theorem toStruct_none : toStruct none = .error (.typeError "gdr_mh_t") := rfl

theorem toUnsigned_eq_ok {ctype : String} {bits : Nat} {value : Int} {n : Nat} :
    toUnsigned ctype bits value = .ok n ↔ 0 ≤ value ∧ value < 2 ^ bits ∧ n = value.toNat := by
  unfold toUnsigned
  split <;> simp_all [eq_comm]

/-- cffi's conversion passes the value, or refuses it with an `OverflowError`. -/
theorem toUnsigned_cases (ctype : String) (bits : Nat) (value : Int) :
    toUnsigned ctype bits value = .error (.overflowError ctype) ∨
      ∃ n, toUnsigned ctype bits value = .ok n := by
  unfold toUnsigned
  split <;> simp

/-- How a method ended, with the fields of its object and the trace at that point. -/
structure Outcome (σ α : Type) where
  result : Except PyError α
  self : σ
  trace : Trace

/-- The run issued no call, left the object's fields as they were and raised no `GDRError`:
it returned at once, or a guard or a cffi conversion refused it. -/
def Outcome.Quiet {σ α : Type} (outcome : Outcome σ α) (self : σ) (trace : Trace) : Prop :=
  outcome.self = self ∧ outcome.trace = trace ∧ ∀ error, outcome.result ≠ .error (.gdr error)

/-- A wrapper method on an object with fields `σ`: it is run against a driver, under the
issuer its calls are recorded with, from the object's fields and the trace so far. -/
def Py (σ α : Type) : Type := Driver → Issuer → σ → Trace → Outcome σ α

namespace Py

variable {σ α β : Type}

/-- Return without touching anything. -/
protected def pure (value : α) : Py σ α := fun _ _ self trace => ⟨.ok value, self, trace⟩

/-- Run `first`, then `next` on its value unless it raised. -/
protected def bind (first : Py σ α) (next : α → Py σ β) : Py σ β :=
  fun driver issuer self trace =>
    match first driver issuer self trace with
    | ⟨.ok value, self', trace'⟩ => next value driver issuer self' trace'
    | ⟨.error error, self', trace'⟩ => ⟨.error error, self', trace'⟩

instance : Monad (Py σ) where
  pure := Py.pure
  bind := Py.bind

/-- Read the object's fields. -/
def get : Py σ σ := fun _ _ self trace => ⟨.ok self, self, trace⟩

/-- Assign the object's fields. -/
def set (self : σ) : Py σ Unit := fun _ _ _ trace => ⟨.ok (), self, trace⟩

/-- Raise `error`. -/
def raise (error : PyError) : Py σ α := fun _ _ self trace => ⟨.error error, self, trace⟩

/-- Run a pure computation that may raise, such as a cffi conversion. -/
def lift (result : Except PyError α) : Py σ α := fun _ _ self trace => ⟨result, self, trace⟩

/-- Issue one native call and record it with the driver's reply. -/
def call (request : DriverCall) : Py σ request.Reply := fun driver issuer self trace =>
  ⟨.ok (driver trace request), self, ⟨issuer, request, driver trace request⟩ :: trace⟩

section Apply

variable (driver : Driver) (issuer : Issuer) (self : σ) (trace : Trace)

@[simp] theorem pure_apply (value : α) :
    (pure value : Py σ α) driver issuer self trace = ⟨.ok value, self, trace⟩ := rfl

@[simp] theorem bind_apply (first : Py σ α) (next : α → Py σ β) :
    (first >>= next) driver issuer self trace =
      match first driver issuer self trace with
      | ⟨.ok value, self', trace'⟩ => next value driver issuer self' trace'
      | ⟨.error error, self', trace'⟩ => ⟨.error error, self', trace'⟩ := rfl

@[simp] theorem get_apply : (get : Py σ σ) driver issuer self trace = ⟨.ok self, self, trace⟩ :=
  rfl

@[simp] theorem set_apply (self' : σ) :
    (set self' : Py σ Unit) driver issuer self trace = ⟨.ok (), self', trace⟩ := rfl

@[simp] theorem raise_apply (error : PyError) :
    (raise error : Py σ α) driver issuer self trace = ⟨.error error, self, trace⟩ := rfl

@[simp] theorem lift_apply (result : Except PyError α) :
    (lift result : Py σ α) driver issuer self trace = ⟨result, self, trace⟩ := rfl

@[simp] theorem call_apply (request : DriverCall) :
    (call request : Py σ request.Reply) driver issuer self trace =
      ⟨.ok (driver trace request), self, ⟨issuer, request, driver trace request⟩ :: trace⟩ :=
  rfl

end Apply

end Py

end GdrCopy
