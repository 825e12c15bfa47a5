/-
# Resource accounting over a trace

The driver hands out three kinds of resource: contexts (`gdr_open`), pin tokens
(`gdr_pin_buffer`, `gdr_pin_buffer_v2`) and mappings (`gdr_map`). This module counts, for
each resource, how often the trace acquired it and how often it passed it back. Only
successful acquisitions count: a NULL from `gdr_open` or a nonzero return code hands out
nothing. A release counts whatever the driver answered: `unpin`, `unmap` and `close` clear
their record of the resource before `_check_error` looks at the return code, so after the
call the bindings no longer hold the resource, whatever the driver answered.

Mappings are counted per issuing handle, because a mapping belongs to the pin it was made
from; contexts and tokens are counted by value.
-/

import GdrCopy.Driver.Api

namespace GdrCopy

namespace Event

/-- A `gdr_open` that handed out the context `g`. -/
def opens (g : Nat) : Event → Bool
  | ⟨_, .gdrOpen, (result : Nat)⟩ => result == g && g != 0
  | _ => false

/-- A `gdr_close` passed the context `g`. -/
def closes (g : Nat) : Event → Bool
  | ⟨_, .gdrClose g', _⟩ => g' == g
  | _ => false

/-- A successful pin, by either variant, that handed out the token `t`. -/
def pins (t : GdrMh) : Event → Bool
  | ⟨_, .gdrPinBuffer .., reply⟩ | ⟨_, .gdrPinBufferV2 .., reply⟩ => reply.1 == 0 && reply.2 == t
  | _ => false

/-- A `gdr_unpin_buffer` passed the token `t`. -/
def unpins (t : GdrMh) : Event → Bool
  | ⟨_, .gdrUnpinBuffer _ handle, _⟩ => handle == t
  | _ => false

/-- Handle `i` issued a `gdr_unpin_buffer`. -/
def unpinsBy (i : Nat) : Event → Bool
  | ⟨.handle j, .gdrUnpinBuffer .., _⟩ => j == i
  | _ => false

/-- Handle `i` issued a successful `gdr_map` of `size` bytes that handed back `va`. -/
def mapsBy (i va size : Nat) : Event → Bool
  | ⟨.handle j, .gdrMap _ _ s, reply⟩ => j == i && reply.1 == 0 && reply.2 == va && s == size
  | _ => false

/-- Handle `i` passed the mapping `(va, size)` to `gdr_unmap`. -/
def unmapsBy (i va size : Nat) : Event → Bool
  | ⟨.handle j, .gdrUnmap _ _ address s, _⟩ => j == i && address == va && s == size
  | _ => false

theorem issuer_of_unpinsBy {i : Nat} {e : Event} (counted : e.unpinsBy i = true) :
    e.issuer = .handle i := by
  unfold unpinsBy at counted
  split at counted <;> simp_all

theorem issuer_of_mapsBy {i va size : Nat} {e : Event} (counted : e.mapsBy i va size = true) :
    e.issuer = .handle i := by
  unfold mapsBy at counted
  split at counted <;> simp_all

theorem issuer_of_unmapsBy {i va size : Nat} {e : Event} (counted : e.unmapsBy i va size = true) :
    e.issuer = .handle i := by
  unfold unmapsBy at counted
  split at counted <;> simp_all

end Event

/-- How often the trace obtained the context `g` from `gdr_open`. -/
def opened (g : Nat) (trace : Trace) : Nat := trace.countP (Event.opens g)

/-- How often the trace passed the context `g` to `gdr_close`. -/
def closed (g : Nat) (trace : Trace) : Nat := trace.countP (Event.closes g)

/-- How often a pin handed out the token `t`. -/
def pinned (t : GdrMh) (trace : Trace) : Nat := trace.countP (Event.pins t)

/-- How often the token `t` was passed to `gdr_unpin_buffer`. -/
def unpinned (t : GdrMh) (trace : Trace) : Nat := trace.countP (Event.unpins t)

/-- How often handle `i` called `gdr_unpin_buffer`. -/
def unpinnedBy (i : Nat) (trace : Trace) : Nat := trace.countP (Event.unpinsBy i)

/-- How often handle `i` obtained the mapping `(va, size)` from `gdr_map`. -/
def mappedBy (i va size : Nat) (trace : Trace) : Nat := trace.countP (Event.mapsBy i va size)

/-- How often handle `i` passed the mapping `(va, size)` to `gdr_unmap`. -/
def unmappedBy (i va size : Nat) (trace : Trace) : Nat := trace.countP (Event.unmapsBy i va size)

section Counts

variable (e : Event) (trace : Trace)

@[simp] theorem opened_nil (g : Nat) : opened g [] = 0 := rfl
@[simp] theorem closed_nil (g : Nat) : closed g [] = 0 := rfl
@[simp] theorem pinned_nil (t : GdrMh) : pinned t [] = 0 := rfl
@[simp] theorem unpinned_nil (t : GdrMh) : unpinned t [] = 0 := rfl
@[simp] theorem unpinnedBy_nil (i : Nat) : unpinnedBy i [] = 0 := rfl
@[simp] theorem mappedBy_nil (i va size : Nat) : mappedBy i va size [] = 0 := rfl
@[simp] theorem unmappedBy_nil (i va size : Nat) : unmappedBy i va size [] = 0 := rfl

@[simp] theorem opened_cons (g : Nat) :
    opened g (e :: trace) = opened g trace + if e.opens g then 1 else 0 :=
  List.countP_cons _ _ _

@[simp] theorem closed_cons (g : Nat) :
    closed g (e :: trace) = closed g trace + if e.closes g then 1 else 0 :=
  List.countP_cons _ _ _

@[simp] theorem pinned_cons (t : GdrMh) :
    pinned t (e :: trace) = pinned t trace + if e.pins t then 1 else 0 :=
  List.countP_cons _ _ _

@[simp] theorem unpinned_cons (t : GdrMh) :
    unpinned t (e :: trace) = unpinned t trace + if e.unpins t then 1 else 0 :=
  List.countP_cons _ _ _

@[simp] theorem unpinnedBy_cons (i : Nat) :
    unpinnedBy i (e :: trace) = unpinnedBy i trace + if e.unpinsBy i then 1 else 0 :=
  List.countP_cons _ _ _

@[simp] theorem mappedBy_cons (i va size : Nat) :
    mappedBy i va size (e :: trace) =
      mappedBy i va size trace + if e.mapsBy i va size then 1 else 0 :=
  List.countP_cons _ _ _

@[simp] theorem unmappedBy_cons (i va size : Nat) :
    unmappedBy i va size (e :: trace) =
      unmappedBy i va size trace + if e.unmapsBy i va size then 1 else 0 :=
  List.countP_cons _ _ _

/-- A call issued by anything but handle `i` leaves handle `i`'s counts as they were. -/
theorem counts_cons_other {i : Nat} (other : e.issuer ≠ .handle i) :
    unpinnedBy i (e :: trace) = unpinnedBy i trace ∧
      ∀ va size, mappedBy i va size (e :: trace) = mappedBy i va size trace ∧
        unmappedBy i va size (e :: trace) = unmappedBy i va size trace := by
  have unpins : e.unpinsBy i = false := by
    simpa using fun counted => other (Event.issuer_of_unpinsBy counted)
  refine ⟨by simp [unpins], fun va size => ?_⟩
  have maps : e.mapsBy i va size = false := by
    simpa using fun counted => other (Event.issuer_of_mapsBy counted)
  have unmaps : e.unmapsBy i va size = false := by
    simpa using fun counted => other (Event.issuer_of_unmapsBy counted)
  simp [maps, unmaps]

/-- Handle `i`'s counts are zero on a trace with no call of handle `i`. -/
theorem counts_of_fresh {i : Nat} (fresh : ∀ e ∈ trace, e.issuer ≠ .handle i) :
    unpinnedBy i trace = 0 ∧ ∀ va size, mappedBy i va size trace = 0 ∧
      unmappedBy i va size trace = 0 := by
  induction trace with
  | nil => simp
  | cons e trace ih =>
      have before := ih fun e' mem => fresh e' (List.mem_cons_of_mem e mem)
      have step := counts_cons_other e trace (fresh e (List.mem_cons_self e trace))
      exact ⟨step.1.trans before.1, fun va size =>
        ⟨(step.2 va size).1.trans (before.2 va size).1,
          (step.2 va size).2.trans (before.2 va size).2⟩⟩

end Counts

end GdrCopy
