/-
# The handle's state machine

The spec draws one state machine per handle: `PINNED` after a pin, `MAPPED` after `map`,
back to `PINNED` after `unmap`, and `UNPINNED`, terminal, after `unpin` from either. This
module states that machine over the list of handles a program pinned and proves that the
bindings refine it. The state of each handle read off its fields is the abstraction
(`World.phases`); one native call moves it by at most one transition of the machine
(`Step.phases`); so every run of every program, from any world and whatever the driver
answers, is a run of the machine (`handles_follow_state_machine`). Each native call of a
handle is also one its state allows (`GDRHandle.Call.phase`).

A failed `map` and a `map` that succeeds at NULL leave the handle in `PINNED`; a failed
`unmap` or `unpin` still moves it on, because both clear their record before raising.

`UNPINNED` is also silent: no native call is allowed from it, so a handle there issues none
again. A mapping still recorded when `unpin` ran is therefore never released.
-/

import GdrCopy.Protocol.HandleMirror

namespace GdrCopy

/-- The states of the spec's machine for one handle. -/
inductive Phase
  | pinned
  | mapped
  | unpinned
  deriving DecidableEq, Repr

/-- The spec's transitions: `map` from `PINNED`, `unmap` back, and `unpin` from either into
the terminal `UNPINNED`. -/
inductive Phase.Step : Phase → Phase → Prop
  | map : Phase.Step .pinned .mapped
  | unmap : Phase.Step .mapped .pinned
  | unpin {phase : Phase} : phase ≠ .unpinned → Phase.Step phase .unpinned

theorem Phase.not_step_unpinned {phase : Phase} : ¬ Phase.Step .unpinned phase := by
  rintro (_ | _ | unpinned)
  exact unpinned rfl

/-- The machine for all handles of a program: a pin adds a handle in `PINNED`, and one
handle takes one transition. -/
inductive Phases.Step : List Phase → List Phase → Prop
  | pin {phases : List Phase} : Phases.Step phases (phases ++ [.pinned])
  | move {phases : List Phase} {index : Nat} {phase : Phase} :
      (found : phases[index]? = some phase) → {phase' : Phase} → Phase.Step phase phase' →
      Phases.Step phases (phases.set index phase')

/-- In the machine for all handles, a handle in `UNPINNED` stays there. -/
theorem Phases.Step.keeps_unpinned {phases phases' : List Phase} (step : Phases.Step phases phases')
    {index : Nat} (unpinned : phases[index]? = some .unpinned) :
    phases'[index]? = some .unpinned := by
  cases step with
  | pin => rwa [List.getElem?_append_left (List.getElem?_eq_some_iff.mp unpinned).1]
  | @move index' phase found phase' moved =>
      by_cases same : index' = index
      · subst same
        cases unpinned.symm.trans found
        exact absurd moved Phase.not_step_unpinned
      · rwa [List.getElem?_set_ne same]

theorem Phases.keeps_unpinned {phases phases' : List Phase}
    (step : Relation.ReflGen Phases.Step phases phases') {index : Nat}
    (unpinned : phases[index]? = some .unpinned) : phases'[index]? = some .unpinned := by
  cases step with
  | refl => exact unpinned
  | single step => exact step.keeps_unpinned unpinned

/-- The state a handle's fields are in: `_handle` unset is `UNPINNED`, whatever
`_mapped_ptr` still holds; otherwise `_mapped_ptr` tells `MAPPED` from `PINNED`. -/
def GDRHandle.phase (self : GDRHandle) : Phase :=
  match self.handle with
  | none => .unpinned
  | some _ => if truthy self.mappedPtr then .mapped else .pinned

/-- The state each handle of a world is in. -/
def World.phases (world : World) : List Phase := world.handles.map GDRHandle.phase

/-- The state a handle's native call needs: `gdr_map` only from `PINNED`, `gdr_unmap` and the
copies only from `MAPPED`, and nothing from `UNPINNED`. -/
def DriverCall.Allowed : DriverCall → Phase → Prop
  | .gdrMap .., phase => phase = .pinned
  | .gdrUnmap .., phase | .gdrCopyToMapping .., phase | .gdrCopyFromMapping .., phase =>
      phase = .mapped
  | _, phase => phase ≠ .unpinned

namespace GDRHandle

variable {driver : Driver} {issuer : Issuer} {gdr : GDRCopy} {self self' : GDRHandle}
  {trace : Trace} {event : Event}

@[simp] theorem phase_init (token : GdrMh) : (init token).phase = .pinned := rfl

/-- Each native call of a handle is allowed in its state, and moves the state along one of
the spec's transitions or leaves it. -/
theorem Call.phase (call : Call driver issuer gdr self trace event self') :
    event.call.Allowed self.phase ∧
      (self'.phase = self.phase ∨ Phase.Step self.phase self'.phase) := by
  cases call with
  | unpin _ owned =>
      have live : self.phase ≠ .unpinned := by unfold phase; split_ifs <;> simp_all
      exact ⟨live, .inr (by simpa [phase] using Phase.Step.unpin live)⟩
  | queryInfo _ _ owned =>
      refine ⟨by unfold phase; split_ifs <;> simp_all [DriverCall.Allowed], .inl ?_⟩
      split <;> rfl
  | @map g handle s size unmapped _ owned _ =>
      have pinned : self.phase = .pinned := by simp [phase, owned, unmapped]
      refine ⟨pinned, ?_⟩
      split
      · rw [pinned]
        by_cases null : (driver trace (.gdrMap g handle s)).2 = 0
        · exact .inl (by simp [phase, owned, null])
        · exact .inr (by simpa [phase, owned, null] using Phase.Step.map)
      · exact .inl rfl
  | unmap mapped live _ owned _ =>
      have isMapped : self.phase = .mapped := by simp [phase, owned, mapped, live]
      have pinned : phase { self with mappedPtr := none, mappedSize := 0 } = .pinned := by
        simp [phase, owned]
      exact ⟨isMapped, .inr (by rw [isMapped, pinned]; exact .unmap)⟩
  | copyToMapping _ _ owned mapped live | copyFromMapping _ _ owned mapped live =>
      exact ⟨by simp [DriverCall.Allowed, phase, owned, mapped, live], .inl rfl⟩
  | getCallbackFlag _ owned =>
      exact ⟨by simp [DriverCall.Allowed, phase, owned]; split_ifs <;> simp, .inl rfl⟩

end GDRHandle

theorem DriverCall.not_allowed_unpinned (call : DriverCall) : ¬ call.Allowed .unpinned := by
  cases call <;> simp [DriverCall.Allowed]

theorem World.phases_pinned (handles : List GDRHandle) (reply : Int × GdrMh) :
    (World.pinned handles reply).map GDRHandle.phase = handles.map GDRHandle.phase ∨
      (World.pinned handles reply).map GDRHandle.phase =
        handles.map GDRHandle.phase ++ [.pinned] := by
  unfold World.pinned
  split <;> simp

/-- One native call moves the handles' states by one step of the machine, or not at all. -/
theorem Step.phases {driver : Driver} {world world' : World} (step : Step driver world world') :
    Relation.ReflGen Phases.Step world.phases world'.phases := by
  unfold World.phases
  cases step with
  | pinBuffer _ _ _ _ _ _ | pinBufferV2 _ _ _ _ _ =>
      rcases World.phases_pinned world.handles _ with same | added
      · rw [same]
      · rw [added]
        exact .single .pin
  | @handle index self self' event found call =>
      have found' : (world.handles.map GDRHandle.phase)[index]? = some self.phase := by simp [found]
      rw [List.map_set]
      rcases call.phase.2 with same | moved
      · rw [same, World.set_of_getElem? found']
      · exact .single (.move found' moved)
  | _ => exact .refl

/-- Whatever the program runs next, a handle whose `_handle` was cleared stays `UNPINNED`:
nothing in the bindings sets it again. -/
theorem unpinned_is_terminal (driver : Driver) (ops ops' : List Op) (index : Nat)
    (unpinned : (World.init.run driver ops).phases[index]? = some .unpinned) :
    (World.init.run driver (ops ++ ops')).phases[index]? = some .unpinned := by
  rw [World.run_append]
  have steps := @World.run_steps driver (World.init.run driver ops) ops'
  generalize (World.init.run driver ops).run driver ops' = final at steps ⊢
  induction steps with
  | refl => exact unpinned
  | tail _ step kept => exact Phases.keeps_unpinned step.phases kept

set_option maxRecDepth 2000 in
/-- Open, pin and unpin on the mock driver leave handle 0 `UNPINNED`, and a `map` after it
leaves it there. -/
theorem unpin_then_map_stays_unpinned :
    (World.init.run mockDriver (scenario.take 2 ++ [.handle 0 .unpin])).phases[0]? =
        some .unpinned ∧
      (World.init.run mockDriver (scenario.take 2 ++ [.handle 0 .unpin] ++
        [.handle 0 (.map 4096)])).phases[0]? = some .unpinned :=
  ⟨by decide, unpinned_is_terminal mockDriver _ _ 0 (by decide)⟩

/-- A step leaves an `UNPINNED` handle `UNPINNED`, and the call it made was not the
handle's. -/
theorem Step.silent_of_unpinned {driver : Driver} {world world' : World}
    (step : Step driver world world') {index : Nat}
    (unpinned : world.phases[index]? = some .unpinned) :
    world'.phases[index]? = some .unpinned ∧
      ∃ event, world'.trace = event :: world.trace ∧ event.issuer ≠ .handle index := by
  refine ⟨Phases.keeps_unpinned step.phases unpinned, ?_⟩
  cases step with
  | @handle j self self' event found call =>
      refine ⟨event, rfl, fun issued => ?_⟩
      obtain rfl : j = index := by simpa [call.issuer_eq] using issued
      have phase : self.phase = .unpinned := by simpa [World.phases, found] using unpinned
      exact DriverCall.not_allowed_unpinned _ (phase ▸ call.phase.1)
  | _ => exact ⟨_, rfl, nofun⟩

/-- From a world where a handle is `UNPINNED`, every program adds calls of other issuers
only. -/
theorem World.silent_of_unpinned {driver : Driver} {world : World} (ops : List Op) {index : Nat}
    (unpinned : world.phases[index]? = some .unpinned) :
    ∃ later, (world.run driver ops).trace = later ++ world.trace ∧
      ∀ e ∈ later, e.issuer ≠ .handle index := by
  have steps := @World.run_steps driver world ops
  generalize world.run driver ops = final at steps ⊢
  suffices final.phases[index]? = some .unpinned ∧ ∃ later, final.trace = later ++ world.trace ∧
      ∀ e ∈ later, e.issuer ≠ .handle index from this.2
  induction steps with
  | refl => exact ⟨unpinned, [], rfl, fun _ mem => absurd mem (List.not_mem_nil _)⟩
  | tail _ step reached =>
      obtain ⟨kept, later, extended, silent⟩ := reached
      obtain ⟨kept', event, next, other⟩ := step.silent_of_unpinned kept
      exact ⟨kept', event :: later, by rw [next, extended]; rfl,
        List.forall_mem_cons.mpr ⟨other, silent⟩⟩

/-- Whatever the program runs next, a handle in `UNPINNED` never issues another native call:
each of its calls needs a state it cannot reach again. So a mapping still live when its
handle was unpinned stays live for good, since no later `unmap` or `__del__` can pass it to
`gdr_unmap`. -/
theorem unpinned_handles_stay_silent (driver : Driver) (ops ops' : List Op) (index : Nat)
    (unpinned : (World.init.run driver ops).phases[index]? = some .unpinned) :
    let world := World.init.run driver ops
    let final := World.init.run driver (ops ++ ops')
    (∃ later, final.trace = later ++ world.trace ∧ ∀ e ∈ later, e.issuer ≠ .handle index) ∧
      ∀ va size, MappingLive index va size world.trace → MappingLive index va size final.trace := by
  intro world final
  obtain ⟨later, extended, silent⟩ := World.silent_of_unpinned ops' unpinned
  have final_eq : final.trace = later ++ world.trace := by
    rw [← extended]
    exact congrArg World.trace (World.run_append driver World.init ops ops')
  refine ⟨⟨later, final_eq, silent⟩, fun va size live => ?_⟩
  obtain ⟨-, counts⟩ := counts_of_fresh later silent
  have ⟨maps, unmaps⟩ := counts va size
  simp only [MappingLive, final_eq, mappedBy, unmappedBy, List.countP_append] at live maps unmaps ⊢
  omega

set_option maxRecDepth 2000 in
/-- On the mock driver, `unpin` while mapped leaves handle 0 `UNPINNED` with the mapping at
address 3 live, and the destructors run after it do not release that mapping. -/
theorem unpin_while_mapped_leaks_mapping :
    (World.init.run mockDriver
        (scenario.take 2 ++ [.handle 0 (.map 4096), .handle 0 .unpin])).phases[0]? =
      some .unpinned ∧
      MappingLive 0 3 4096 (World.init.run mockDriver
        (scenario.take 2 ++ [.handle 0 (.map 4096), .handle 0 .unpin] ++
          [.handle 0 .del, .context .del])).trace :=
  ⟨by decide, (unpinned_handles_stay_silent mockDriver _ [.handle 0 .del, .context .del] 0
    (by decide)).2 3 4096
    (by unfold MappingLive; decide)⟩

end GdrCopy
