/-
# A handle's records mirror the driver's resources

Each handle keeps two records of what it holds at the driver: `_handle`, its pin token, and
`_mapped_ptr` with `_mapped_size`, its mapping. This module proves that the records never
drift from the calls the handle issued, whatever the driver answers: the token is held until
the handle's one `gdr_unpin_buffer`, and the mappings its `gdr_map` obtained and its
`gdr_unmap` has not released are exactly the one recorded, or none.

The records are tested only for truth, so a mapping at NULL would be invisible to them. The
invariant therefore assumes a driver whose successful `gdr_map` never answers NULL; the
mapping at NULL that any other driver can hand out is exhibited after the main theorem.
-/

import GdrCopy.Protocol.Scenario

namespace GdrCopy

namespace GDRHandle

/-- The mapping `_mapped_ptr` and `_mapped_size` record, keyed as the `gdr_map` that made it:
by the address and the size cffi passed. None while `_mapped_ptr` is false. -/
def mapping (self : GDRHandle) : Option (Nat × Nat) :=
  if truthy self.mappedPtr then some (self.mappedPtr.getD 0, self.mappedSize.toNat) else none

end GDRHandle

/-- A driver whose successful `gdr_map` never hands back NULL, as gdrapi promises. -/
def MapsNonNull (driver : Driver) : Prop :=
  ∀ trace g handle size, (driver trace (.gdrMap g handle size)).1 = 0 →
    (driver trace (.gdrMap g handle size)).2 ≠ 0

theorem mockDriver_mapsNonNull : MapsNonNull mockDriver :=
  fun trace _ _ _ _ => Nat.succ_ne_zero trace.length

/-- Handle `index`'s fields against the calls it issued. `_handle` is set until the handle's
one `gdr_unpin_buffer`; every mapping its `gdr_map` obtained and its `gdr_unmap` has not
released is the one recorded; and the recorded size is one cffi accepts as a `size_t`. -/
structure Mirrors (index : Nat) (record : GDRHandle) (trace : Trace) : Prop where
  pin : unpinnedBy index trace + (if record.handle.isSome then 1 else 0) = 1
  mapping : ∀ va size, mappedBy index va size trace =
    unmappedBy index va size trace + if record.mapping = some (va, size) then 1 else 0
  sizeFits : 0 ≤ record.mappedSize ∧ record.mappedSize < 2 ^ 64

namespace Mirrors

variable {index : Nat} {self : GDRHandle} {trace : Trace}

/-- A handle just pinned, with no call of its own yet, mirrors nothing. -/
theorem init (token : GdrMh) (fresh : ∀ event ∈ trace, event.issuer ≠ .handle index) :
    Mirrors index (GDRHandle.init token) trace := by
  obtain ⟨unpins, counts⟩ := counts_of_fresh trace fresh
  refine ⟨by simp [unpins, GDRHandle.init], fun va size => ?_, by simp [GDRHandle.init]⟩
  simp [(counts va size).1, (counts va size).2, GDRHandle.mapping, GDRHandle.init]

/-- Calls of other objects leave a handle's mirror as it was. -/
theorem cons_other {event : Event} (mirrors : Mirrors index self trace)
    (other : event.issuer ≠ .handle index) : Mirrors index self (event :: trace) := by
  obtain ⟨unpins, counts⟩ := counts_cons_other event trace other
  exact ⟨by rw [unpins]; exact mirrors.pin,
    fun va size => by rw [(counts va size).1, (counts va size).2]; exact mirrors.mapping va size,
    mirrors.sizeFits⟩

end Mirrors

namespace GDRHandle

variable {driver : Driver} {index : Nat} {gdr : GDRCopy} {self self' : GDRHandle}
  {trace : Trace} {event : Event}

/-- A handle's own call keeps its mirror. A failed `gdr_map` records nothing, and `unpin` and
`unmap` clear their record whatever the driver answers, which is what the counts need. -/
theorem Call.mirrors (nonNull : MapsNonNull driver)
    (call : Call driver (.handle index) gdr self trace event self')
    (mirrors : Mirrors index self trace) : Mirrors index self' (event :: trace) := by
  obtain ⟨pin, mapping, fits⟩ := mirrors
  cases call with
  | unpin held owned =>
      refine ⟨?_, fun va size => ?_, fits⟩
      · simp [Event.unpinsBy, owned] at pin ⊢
        omega
      · simpa [Event.mapsBy, Event.unmapsBy, GDRHandle.mapping] using mapping va size
  | queryInfo _ _ _ =>
      split <;>
        exact ⟨by simpa [Event.unpinsBy] using pin, fun va size => by
          simpa [Event.mapsBy, Event.unmapsBy, GDRHandle.mapping] using mapping va size, fits⟩
  | map size unmapped held owned converted =>
      obtain ⟨nonneg, below, rfl⟩ := toUnsigned_eq_ok.mp converted
      split
      · rename_i succeeded
        have live := nonNull trace _ _ _ succeeded
        have unrecorded : self.mapping = none := by simp [GDRHandle.mapping, unmapped]
        refine ⟨by simpa [Event.unpinsBy] using pin, fun va size' => ?_, ⟨nonneg, below⟩⟩
        have before := mapping va size'
        simp only [unrecorded] at before
        simp [Event.mapsBy, Event.unmapsBy, GDRHandle.mapping, live, succeeded, before]
      · rename_i failed
        exact ⟨by simpa [Event.unpinsBy] using pin,
          fun va size => by simpa [Event.mapsBy, Event.unmapsBy, failed] using mapping va size,
          fits⟩
  | @unmap _ _ va _ mapped live held owned converted =>
      obtain ⟨nonneg, below, rfl⟩ := toUnsigned_eq_ok.mp converted
      have recorded : self.mapping = some (va, self.mappedSize.toNat) := by
        simp [GDRHandle.mapping, mapped, live]
      refine ⟨by simpa [Event.unpinsBy] using pin, fun va' size => ?_, by simp⟩
      have before := mapping va' size
      by_cases same : va = va' ∧ self.mappedSize.toNat = size
      · obtain ⟨rfl, rfl⟩ := same
        simp [recorded] at before
        simp [Event.mapsBy, Event.unmapsBy, GDRHandle.mapping, before]
      · simp only [recorded, Option.some.injEq, Prod.mk.injEq, same, if_false] at before
        simpa [Event.mapsBy, Event.unmapsBy, GDRHandle.mapping, before] using not_and.mp same
  | copyToMapping _ _ _ _ _ | copyFromMapping _ _ _ _ _ | getCallbackFlag _ _ =>
      exact ⟨by simpa [Event.unpinsBy] using pin,
        fun va size => by simpa [Event.mapsBy, Event.unmapsBy] using mapping va size, fits⟩

end GDRHandle

/-- Under a driver that never maps at NULL, mirroring is a handle invariant. -/
theorem mirrors_handleInvariant {driver : Driver} (nonNull : MapsNonNull driver) :
    HandleInvariant driver Mirrors :=
  ⟨fun _ token _ fresh => Mirrors.init token fresh, Mirrors.cons_other,
    fun call => call.mirrors nonNull⟩

/-- A mapping that handle `index` obtained from `gdr_map` and has not yet passed to
`gdr_unmap`. -/
def MappingLive (index va size : Nat) (trace : Trace) : Prop :=
  unmappedBy index va size trace < mappedBy index va size trace

namespace Mirrors

variable {index : Nat} {self : GDRHandle} {trace : Trace}

theorem mappingLive_iff (mirrors : Mirrors index self trace) (va size : Nat) :
    MappingLive index va size trace ↔ self.mapping = some (va, size) := by
  have balance := mirrors.mapping va size
  unfold MappingLive
  split_ifs at balance <;> simp_all

theorem truthy_iff_live (mirrors : Mirrors index self trace) :
    truthy self.mappedPtr ↔ ∃ va size, MappingLive index va size trace := by
  simp only [mirrors.mappingLive_iff, GDRHandle.mapping]
  split_ifs with mapped <;> simp [mapped]

end Mirrors

/-- Whatever the program and whatever the driver answers, as long as a successful `gdr_map`
never hands back NULL: a handle's `_handle` is set until its one `gdr_unpin_buffer`, and the
mappings its `gdr_map` obtained and its `gdr_unmap` has not released are the recorded one or
none. So a handle has at most one live mapping, unmaps only what it mapped with the address
and size it was mapped with, unpins at most once, and `map` raises without calling the driver
exactly while a mapping is live. -/
theorem handle_records_mirror_driver (driver : Driver) (nonNull : MapsNonNull driver)
    (ops : List Op) :
    let world := World.init.run driver ops
    ∀ index self, world.handles[index]? = some self →
      unpinnedBy index world.trace + (if self.handle.isSome then 1 else 0) = 1 ∧
      (∀ va size, mappedBy index va size world.trace =
        unmappedBy index va size world.trace + if self.mapping = some (va, size) then 1 else 0) ∧
      (∀ va size va' size', MappingLive index va size world.trace →
        MappingLive index va' size' world.trace → va = va' ∧ size = size') ∧
      (∀ va size, unmappedBy index va size world.trace ≤ mappedBy index va size world.trace) ∧
      unpinnedBy index world.trace ≤ 1 ∧
      (∀ gdr size issuer, GDRHandle.map gdr size driver issuer self world.trace =
          ⟨.error (.runtimeError "Buffer is already mapped"), self, world.trace⟩ ↔
        ∃ va size', MappingLive index va size' world.trace) := by
  intro world index self found
  have mirrors : Mirrors index self world.trace :=
    (mirrors_handleInvariant nonNull).reachable (World.reachable_run ops) index self found
  refine ⟨mirrors.pin, mirrors.mapping, fun va size va' size' live live' => ?_,
    fun va size => ?_, by have := mirrors.pin; omega, fun gdr size issuer => ?_⟩
  · rw [mirrors.mappingLive_iff] at live live'
    simpa using live.symm.trans live'
  · have := mirrors.mapping va size
    omega
  · rw [← mirrors.truthy_iff_live]
    constructor
    · intro refused
      by_contra unmapped
      exact GDRHandle.map_ne_already_mapped size (eq_false_of_ne_true unmapped)
        (congrArg Outcome.result refused)
    · exact GDRHandle.map_of_truthy size

set_option maxRecDepth 2000 in
/-- The spec's scenario on the mock driver: its one handle ends unpinned, once. -/
theorem scenario_handle_unpinned_once :
    MapsNonNull mockDriver ∧ unpinnedBy 0 (World.init.run mockDriver scenario).trace = 1 :=
  ⟨mockDriver_mapsNonNull,
    (handle_records_mirror_driver mockDriver mockDriver_mapsNonNull scenario 0 _ rfl).1⟩

set_option maxRecDepth 2000 in
/-- A driver that maps at NULL: two calls of `map` both reach the driver, and the handle
records neither of the two mappings they obtained. -/
theorem nullMap_mappings_escape_record :
    let world := World.init.run nullMapDriver
      (scenario.take 2 ++ [.handle 0 (.map 4096), .handle 0 (.map 4096)])
    world.handles[0]?.map GDRHandle.mapping = some none ∧
      mappedBy 0 0 4096 world.trace = 2 ∧ unmappedBy 0 0 4096 world.trace = 0 := by
  decide

/-- Under a driver that never maps at NULL, `copy_to_mapping` and `copy_from_mapping` pass
the handle's live mapping: an address this handle's `gdr_map` handed back, with the size it
was mapped with, not yet passed to `gdr_unmap`. -/
theorem copies_target_live_mapping (driver : Driver) (nonNull : MapsNonNull driver)
    (ops : List Op) :
    let world := World.init.run driver ops
    ∀ index self event self', world.handles[index]? = some self →
      GDRHandle.Call driver (.handle index) world.gdr self world.trace event self' →
      ∀ handle va hPtr size, event.call = .gdrCopyToMapping handle va hPtr size ∨
          event.call = .gdrCopyFromMapping handle hPtr va size →
        MappingLive index va self.mappedSize.toNat world.trace := by
  intro world index self event self' found call handle va hPtr size copies
  have mirrors : Mirrors index self world.trace :=
    (mirrors_handleInvariant nonNull).reachable (World.reachable_run ops) index self found
  rw [mirrors.mappingLive_iff]
  cases call <;> simp at copies
  · obtain ⟨-, rfl, -⟩ := copies
    simp [GDRHandle.mapping, *]
  · obtain ⟨-, -, rfl, -⟩ := copies
    simp [GDRHandle.mapping, *]

set_option maxRecDepth 2000 in
/-- After open, pin, `get_info` and `map(4096)` on the mock driver, a copy of 64 bytes passes
the live mapping at address 4. -/
theorem scenario_copy_targets_mapping :
    MapsNonNull mockDriver ∧
      MappingLive 0 4 4096 (World.init.run mockDriver (scenario.take 4)).trace :=
  ⟨mockDriver_mapsNonNull, copies_target_live_mapping mockDriver mockDriver_mapsNonNull
    (scenario.take 4) 0 _ _ _ rfl (GDRHandle.Call.copyToMapping 0x2000 64 rfl rfl (by decide))
    ⟨2⟩ 4 0x2000 64 (.inl rfl)⟩

end GdrCopy
