/-
# What `get_info` returns

`get_info` queries `gdr_get_info_v2` only while `_info` is unset, and the first successful
query sets it for good: neither `map`, `unmap` nor `unpin` touches it. This module gives the
cache a closed form, the info of the handle's first successful query in the trace, and
proves that it is a handle invariant. So `get_info` is a fresh query until one succeeds and
a replay of that first answer afterwards, and the two part as soon as the driver's answer
changes: the spec's own scenario, `map` after a first `get_info`, is such a run.
-/

import GdrCopy.Protocol.Scenario

namespace GdrCopy

namespace Event

/-- The info a successful `gdr_get_info_v2` of handle `i` reported. -/
def infoBy (i : Nat) : Event → Option Info
  | ⟨.handle j, .gdrGetInfoV2 .., reply⟩ =>
      if j = i ∧ reply.1 = 0 then some (Info.ofV2 reply.2) else none
  | _ => none

theorem infoBy_of_issuer {i : Nat} {e : Event} (other : e.issuer ≠ .handle i) :
    e.infoBy i = none := by
  unfold infoBy
  split <;> simp_all

end Event

/-- The info of handle `i`'s first successful `gdr_get_info_v2` in the trace, if any. -/
def firstInfo (i : Nat) : Trace → Option Info
  | [] => none
  | e :: trace => match firstInfo i trace with
    | some info => some info
    | none => e.infoBy i

@[simp] theorem firstInfo_nil (i : Nat) : firstInfo i [] = none := rfl

theorem firstInfo_cons_of_none {i : Nat} {e : Event} {trace : Trace}
    (none : firstInfo i trace = none) : firstInfo i (e :: trace) = e.infoBy i := by
  simp [firstInfo, none]

theorem firstInfo_cons_of_some {i : Nat} {e : Event} {trace : Trace} {info : Info}
    (first : firstInfo i trace = some info) : firstInfo i (e :: trace) = some info := by
  simp [firstInfo, first]

/-- `_info` is the first successful query's info, or unset before one. -/
def InfoCached (index : Nat) (record : GDRHandle) (trace : Trace) : Prop :=
  record.info = firstInfo index trace

theorem firstInfo_cons_other {i : Nat} {e : Event} {trace : Trace}
    (other : e.issuer ≠ .handle i) : firstInfo i (e :: trace) = firstInfo i trace := by
  rcases first : firstInfo i trace with _ | info
  · rw [firstInfo_cons_of_none first, Event.infoBy_of_issuer other]
  · exact firstInfo_cons_of_some first

namespace GDRHandle

variable {driver : Driver} {index : Nat} {gdr : GDRCopy} {self self' : GDRHandle}
  {trace : Trace} {event : Event}

/-- Only `gdr_get_info_v2`, issued while `_info` is unset, changes the cache. -/
theorem Call.infoCached (call : Call driver (.handle index) gdr self trace event self')
    (cached : InfoCached index self trace) : InfoCached index self' (event :: trace) := by
  unfold InfoCached at *
  cases call with
  | queryInfo uncached _ _ =>
      rw [firstInfo_cons_of_none (cached ▸ uncached)]
      split <;> simp_all [Event.infoBy]
  | _ =>
      rcases first : firstInfo index trace with _ | info
      · simp [firstInfo_cons_of_none first, Event.infoBy, cached, first, apply_ite GDRHandle.info]
      · simp [firstInfo_cons_of_some first, cached, first, apply_ite GDRHandle.info]

end GDRHandle

theorem infoCached_handleInvariant (driver : Driver) : HandleInvariant driver InfoCached where
  init _ _ trace fresh := by
    induction trace with
    | nil => rfl
    | cons e trace ih =>
        rw [InfoCached, firstInfo_cons_other (fresh e (List.mem_cons_self e trace))]
        exact ih fun e' mem => fresh e' (List.mem_cons_of_mem e mem)
  other cached other := by
    rw [InfoCached, firstInfo_cons_other other]
    exact cached
  call := GDRHandle.Call.infoCached

/-- Whatever the program and whatever the driver answers, `_info` holds the info of the
handle's first successful query. Until there is one, `get_info` is a fresh
`gdr_get_info_v2` query; from then on it returns that info without calling the driver, after
any `map`, `unmap` or `unpin`. -/
theorem getInfo_replays_first_query (driver : Driver) (ops : List Op) :
    let world := World.init.run driver ops
    ∀ index self, world.handles[index]? = some self →
      self.info = firstInfo index world.trace ∧ ∀ gdr issuer,
        (firstInfo index world.trace = none →
          GDRHandle.getInfo gdr driver issuer self world.trace =
            GDRHandle.queryInfo gdr driver issuer self world.trace) ∧
        ∀ info, firstInfo index world.trace = some info →
          GDRHandle.getInfo gdr driver issuer self world.trace = ⟨.ok info, self, world.trace⟩ := by
  intro world index self found
  have cached : self.info = firstInfo index world.trace :=
    (infoCached_handleInvariant driver).reachable (World.reachable_run ops) index self found
  exact ⟨cached, fun _ _ => ⟨fun none => GDRHandle.getInfo_of_uncached (cached ▸ none),
    fun _ first => GDRHandle.getInfo_of_cached (cached ▸ first)⟩⟩

set_option maxRecDepth 2000 in
/-- The spec's scenario up to `map(4096)`, on the mock driver: `get_info` replays the first
query, made before `map`, which saw no mapping, while a fresh query reports the mapping. -/
theorem scenario_getInfo_stale_after_map :
    let world := World.init.run mockDriver (scenario.take 4)
    let self : GDRHandle := ⟨some ⟨2⟩, some 4, 4096, some ⟨0, 0, 65536, false, false, 0⟩⟩
    world.handles[0]? = some self ∧
      (GDRHandle.getInfo world.gdr mockDriver (.handle 0) self world.trace).result =
        .ok ⟨0, 0, 65536, false, false, 0⟩ ∧
      (GDRHandle.queryInfo world.gdr mockDriver (.handle 0) self world.trace).result =
        .ok ⟨4, 4096, 65536, true, true, 1⟩ :=
  ⟨rfl, rfl, rfl⟩

end GdrCopy
