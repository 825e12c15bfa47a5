/-
# Functions that close what they open

Each benchmark function of the examples creates its own instance, opens it outside a `try`,
pins a buffer and binds it to `handle` inside the `try`, and closes the instance in the
`finally`. Whatever the driver answers and wherever an exception cuts the body short, such a
function closes every context it opens and neither unpins its buffer nor unmaps its mapping.
The body releases nothing, and the destructors of its locals make no call, since by the time
they run the instance is closed or never held a context (`closing_frame_is_tidy`).

`Stmt.Tidy` says this of a statement run from any state, `Stmt.TidyFrame` of a function body
run from a fresh frame, together with the silence of its destructors. The rules below close
both under the statement forms of the callers. `Stmt.Closing` names the programs the rules
build from the pattern: calls of closing functions and harmless statements, under blocks,
loops and `try` statements. Every such program is tidy (`closing_programs_are_tidy`), and both
examples are such programs.
-/

import GdrCopy.Callers.Examples

namespace GdrCopy

/-! ### Calls that close what they open -/

/-- A neutral call counts in none of the ledgers of what can be released. -/
theorem Event.uncounted_of_neutral {e : Event} (neutral : e.call.neutral) :
    (∀ g, e.opens g = false) ∧ (∀ g, e.closes g = false) ∧ (∀ t, e.unpins t = false) ∧
      ∀ i va size, e.unmapsBy i va size = false := by
  rcases e with ⟨_ | _ | _, call, _⟩ <;> cases call <;>
    first
    | exact ⟨fun _ => rfl, fun _ => rfl, fun _ => rfl, fun _ _ _ => rfl⟩
    | cases neutral

section Ledgers

variable {first second : Trace}

@[simp] theorem opened_append (g : Nat) :
    opened g (first ++ second) = opened g first + opened g second := List.countP_append ..

@[simp] theorem closed_append (g : Nat) :
    closed g (first ++ second) = closed g first + closed g second := List.countP_append ..

@[simp] theorem unpinned_append (t : GdrMh) :
    unpinned t (first ++ second) = unpinned t first + unpinned t second := List.countP_append ..

@[simp] theorem unmappedBy_append (i va size : Nat) :
    unmappedBy i va size (first ++ second) =
      unmappedBy i va size first + unmappedBy i va size second :=
  List.countP_append ..

end Ledgers

/-- The calls close every context they open, and pass no pin token to `gdr_unpin_buffer` and
no mapping to `gdr_unmap`. -/
def ClosesContextsOnly (later : Trace) : Prop :=
  (∀ g, opened g later = closed g later) ∧ (∀ t, unpinned t later = 0) ∧
    ∀ i va size, unmappedBy i va size later = 0

namespace ClosesContextsOnly

theorem of_neutral {later : Trace} (neutral : ∀ e ∈ later, e.call.neutral) :
    ClosesContextsOnly later := by
  have zero {p : Event → Bool} (uncounted : ∀ e : Event, e.call.neutral → p e = false) :
      later.countP p = 0 :=
    List.countP_eq_zero.mpr fun e mem => by simp [uncounted e (neutral e mem)]
  exact ⟨fun g => (zero fun e n => (e.uncounted_of_neutral n).1 g).trans
      (zero fun e n => (e.uncounted_of_neutral n).2.1 g).symm,
    fun t => zero fun e n => (e.uncounted_of_neutral n).2.2.1 t,
    fun i va size => zero fun e n => (e.uncounted_of_neutral n).2.2.2 i va size⟩

theorem append {first second : Trace} (hfirst : ClosesContextsOnly first)
    (hsecond : ClosesContextsOnly second) : ClosesContextsOnly (second ++ first) :=
  ⟨fun g => by simp [hfirst.1 g, hsecond.1 g], fun t => by simp [hfirst.2.1 t, hsecond.2.1 t],
    fun i va size => by simp [hfirst.2.2 i va size, hsecond.2.2 i va size]⟩

/-- A `gdr_open` that returned NULL hands out nothing. -/
theorem null_open {issuer : Issuer} {reply : Nat} (null : reply = 0) :
    ClosesContextsOnly [⟨issuer, .gdrOpen, reply⟩] :=
  ⟨fun g => by
    by_cases zero : g = 0
    · simp [Event.opens, Event.closes, zero]
    · simp [Event.opens, Event.closes, null, Ne.symm zero],
    fun _ => rfl, fun _ _ _ => by cases issuer <;> rfl⟩

/-- A context opened first and closed last, around calls that release nothing. -/
theorem bracket {g : Nat} (live : g ≠ 0) {inner : Trace} (neutral : ∀ e ∈ inner, e.call.neutral)
    {issuer issuer' : Issuer} {reply : Int} :
    ClosesContextsOnly (⟨issuer, .gdrClose g, reply⟩ :: inner ++ [⟨issuer', .gdrOpen, g⟩]) := by
  obtain ⟨opens, unpins, unmaps⟩ := of_neutral neutral
  refine ⟨fun g' => ?_, fun t => ?_, fun i va size => ?_⟩
  · by_cases same : g = g'
    · subst same
      simp [opens g, Event.opens, Event.closes, live]
    · simp [opens g', Event.opens, Event.closes, same]
  · simp [unpins t, Event.unpins]
  · simp [unmaps i va size, Event.unmapsBy]

end ClosesContextsOnly

/-- `trace'` is `trace` followed by calls that close every context they open and release
nothing else. -/
def ClosesFrom (trace trace' : Trace) : Prop :=
  ∃ later, trace' = later ++ trace ∧ ClosesContextsOnly later

namespace ClosesFrom

theorem refl (trace : Trace) : ClosesFrom trace trace :=
  ⟨[], rfl, .of_neutral fun _ mem => absurd mem (List.not_mem_nil _)⟩

theorem trans {trace trace' trace'' : Trace} :
    ClosesFrom trace trace' → ClosesFrom trace' trace'' → ClosesFrom trace trace''
  | ⟨first, hfirst, cfirst⟩, ⟨second, hsecond, csecond⟩ =>
    ⟨second ++ first, by rw [hsecond, hfirst, List.append_assoc], cfirst.append csecond⟩

theorem of_neutral {trace trace' : Trace} : NeutralFrom trace trace' → ClosesFrom trace trace'
  | ⟨later, traced, neutral⟩ => ⟨later, traced, .of_neutral neutral⟩

theorem null_open {trace : Trace} {issuer : Issuer} {reply : Nat} (null : reply = 0) :
    ClosesFrom trace (⟨issuer, .gdrOpen, reply⟩ :: trace) :=
  ⟨[_], rfl, .null_open null⟩

theorem bracket {g : Nat} (live : g ≠ 0) {inner trace : Trace}
    (neutral : ∀ e ∈ inner, e.call.neutral) {issuer issuer' : Issuer} {reply : Int} :
    ClosesFrom trace
      (⟨issuer, .gdrClose g, reply⟩ :: (inner ++ ⟨issuer', .gdrOpen, g⟩ :: trace)) :=
  ⟨⟨issuer, .gdrClose g, reply⟩ :: inner ++ [⟨issuer', .gdrOpen, g⟩], by simp,
    .bracket live neutral⟩

end ClosesFrom

/-! ### Statements and function bodies -/

/-- A run that kept the frame and made calls that close every context they open and release
nothing else. -/
def Exec.Tidy (st st' : Exec) : Prop :=
  st'.frame = st.frame ∧ ClosesFrom st.world.trace st'.world.trace

theorem Exec.Tidy.trans {st st' st'' : Exec} (first : st.Tidy st') (second : st'.Tidy st'') :
    st.Tidy st'' :=
  ⟨second.1.trans first.1, first.2.trans second.2⟩

theorem Exec.Tidy.refl (st : Exec) : st.Tidy st := ⟨rfl, .refl _⟩

theorem Exec.Keeps.trans {st st' st'' : Exec} (first : st.Keeps st') (second : st'.Keeps st'') :
    st.Keeps st'' :=
  ⟨second.1.trans first.1, first.2.trans second.2⟩

/-- Run from any state, the statement is tidy. -/
def Stmt.Tidy (s : Stmt) : Prop := ∀ (driver : Driver) (st : Exec), st.Tidy (s.exec driver st).1

/-- Run from a fresh frame in any world, the function body makes calls that close every
context they open and release nothing else, and leaves a frame whose destructors make no
call. -/
def Stmt.TidyFrame (s : Stmt) : Prop :=
  ∀ (driver : Driver) (world : World),
    ClosesFrom world.trace (s.exec driver ⟨world, .fresh⟩).1.world.trace ∧
      (s.exec driver ⟨world, .fresh⟩).1.frame.Quiet (s.exec driver ⟨world, .fresh⟩).1.world

/-- A run that makes calls closing what they open, and keeps the destructors of a quiet frame
quiet. -/
def Exec.Settles (st st' : Exec) : Prop :=
  ClosesFrom st.world.trace st'.world.trace ∧ (st.frame.Quiet st.world → st'.frame.Quiet st'.world)

theorem Frame.quiet_fresh (world : World) : Frame.fresh.Quiet world := ⟨nofun, nofun⟩

namespace Stmt

theorem Tidy.of_harmless {s : Stmt} (harmless : s.harmless) : s.Tidy := fun driver st =>
  let stays := @harmless_run driver s harmless st
  ⟨stays.1, .of_neutral stays.2.2⟩

theorem Tidy.seq {first second : Stmt} (hfirst : first.Tidy) (hsecond : second.Tidy) :
    (Stmt.seq first second).Tidy := fun driver st =>
  Exec.andThen_rel .trans (hfirst driver st) (hsecond driver)

theorem Tidy.loop (n : Nat) {body : Stmt} (tidy : body.Tidy) : (Stmt.loop n body).Tidy :=
  fun driver st => Exec.iterate_rel .trans .refl (tidy driver) n st

theorem Tidy.tryExcept (clause : Catch) {body handler : Stmt} (hbody : body.Tidy)
    (hhandler : handler.Tidy) : (Stmt.tryExcept body clause handler).Tidy := fun driver st =>
  Exec.catching_rel .trans (hbody driver st) (hhandler driver)

theorem Tidy.tryFinally {body final : Stmt} (hbody : body.Tidy) (hfinal : final.Tidy) :
    (Stmt.tryFinally body final).Tidy := fun driver st =>
  Exec.finalize_rel .trans (hbody driver st) (hfinal driver)

/-- A call of a tidy function body is tidy: its destructors make no call. -/
theorem Tidy.call {body : Stmt} (frame : body.TidyFrame) : (Stmt.call body).Tidy :=
  fun driver st => by
    obtain ⟨closes, quiet⟩ := frame driver st.world
    exact ⟨rfl, by simpa only [exec, World.run_dels_of_quiet quiet] using closes⟩

/-- A tidy body that binds nothing leaves a fresh frame, whose destructors make no call. -/
theorem Tidy.frame {s : Stmt} (tidy : s.Tidy) : s.TidyFrame := fun driver world =>
  let ⟨same, closes⟩ := tidy driver ⟨world, .fresh⟩
  ⟨closes, same ▸ Frame.quiet_fresh _⟩

theorem TidyFrame.seq {first second : Stmt} (hfirst : first.Tidy) (hsecond : second.TidyFrame) :
    (Stmt.seq first second).TidyFrame := fun driver world => by
  obtain ⟨same, closes⟩ := hfirst driver ⟨world, .fresh⟩
  rcases run : first.exec driver ⟨world, .fresh⟩ with ⟨⟨world', frame'⟩, _ | _ | _⟩ <;>
    rw [run] at same closes <;> simp only at same <;> subst same
  · obtain ⟨closes', quiet⟩ := hsecond driver world'
    simpa only [exec, run, Exec.andThen] using ⟨closes.trans closes', quiet⟩
  all_goals simpa only [exec, run, Exec.andThen] using ⟨closes, Frame.quiet_fresh world'⟩

theorem TidyFrame.tryExcept {body handler : Stmt} (hbody : body.TidyFrame)
    (harmless : handler.harmless) (clause : Catch) :
    (Stmt.tryExcept body clause handler).TidyFrame := fun driver world => by
  have settles : Exec.Settles ⟨world, .fresh⟩ ((Stmt.tryExcept body clause handler).exec driver
      ⟨world, .fresh⟩).1 := by
    refine Exec.catching_rel (fun h h' => ⟨h.1.trans h'.1, h'.2 ∘ h.2⟩)
      ⟨(hbody driver world).1, fun _ => (hbody driver world).2⟩ fun st' => ?_
    obtain ⟨frame, gdr, neutral⟩ := @harmless_run driver handler harmless st'
    exact ⟨.of_neutral neutral, fun quiet => by simpa only [Frame.Quiet, frame, gdr] using quiet⟩
  exact ⟨settles.1, settles.2 (Frame.quiet_fresh world)⟩

end Stmt

/-! ### The examples' pattern -/

/-- The `try` block of the pattern, entered with the context `g` just opened and `handle`
unbound: the pin and the rest make only neutral calls, and the `finally` closes `g` and drops
it. -/
theorem Stmt.closing_try_tidy (pin : Pin) {rest : Stmt} (harmless : rest.harmless)
    {driver : Driver} {st : Exec} {g : Nat} {base : Trace} {issuer : Issuer}
    (held : st.world.gdr.handle = some g) (live : g ≠ 0) (unbound : st.frame.handle = none)
    (opened : st.world.trace = ⟨issuer, .gdrOpen, g⟩ :: base) :
    let st' :=
      ((Stmt.tryFinally (.seq (.assignHandle pin) rest) (.invoke (.gdr .close))).exec driver st).1
    ClosesFrom base st'.world.trace ∧ st'.world.gdr.handle = none := by
  obtain ⟨kept, later, traced, neutral⟩ :=
    Exec.andThen_rel @Exec.Keeps.trans (@Exec.assignHandle_keeps driver st unbound pin)
      fun st'' => (@harmless_run driver rest harmless st'').2
  simp only [exec, Exec.finalize_fst, Exec.invoke_close ((congrArg GDRCopy.handle kept).trans held)
    live, traced, opened]
  exact ⟨.bracket live neutral, trivial⟩

/-- `gdr = GDRCopy()`, `gdr.open()`, then `try:` a pin bound to `handle` and a harmless rest,
`finally: gdr.close()`. -/
theorem Stmt.TidyFrame.closing (pin : Pin) {rest : Stmt} (harmless : rest.harmless) :
    (Stmt.seqs [.newInstance, .invoke (.gdr .open),
      .tryFinally (.seq (.assignHandle pin) rest) (.invoke (.gdr .close))]).TidyFrame := by
  intro driver world
  simp only [Stmt.seqs, Stmt.exec, Exec.andThen, Exec.invoke_open, GDRCopy.init, truthy_none]
  by_cases null : @Eq Nat (driver world.trace .gdrOpen) 0
  · simp only [null, if_true, Exec.andThen]
    exact ⟨.null_open rfl, nofun, fun _ => rfl⟩
  simp only [null, if_false, Exec.andThen]
  exact And.imp_right Frame.quiet_of_closed (Stmt.closing_try_tidy pin harmless rfl null rfl rfl)

/-- The examples' pattern, for every pin and every harmless rest of the `try` block: whatever
the driver answers and wherever the body raises, the function closes the context it opened,
releases neither its pin nor its mapping, and leaves its destructors nothing to do. -/
theorem closing_frame_is_tidy (pin : Pin) {rest : Stmt} (harmless : rest.harmless) :
    (Stmt.seqs [.newInstance, .invoke (.gdr .open),
      .tryFinally (.seq (.assignHandle pin) rest) (.invoke (.gdr .close))]).TidyFrame :=
  Stmt.TidyFrame.closing pin harmless

/-- The pattern with a pin of 4096 bytes that is mapped and then returned. -/
theorem closing_frame_map_and_return_is_tidy :
    (Stmt.seq (.invoke (.handle (.map 4096))) .ret).harmless ∧
      (Stmt.seqs [.newInstance, .invoke (.gdr .open),
        .tryFinally (.seq (.assignHandle (.pinBufferV2 0x1000 4096 gdrPinFlagDefault))
          (.seq (.invoke (.handle (.map 4096))) .ret)) (.invoke (.gdr .close))]).TidyFrame :=
  ⟨rfl, closing_frame_is_tidy (.pinBufferV2 0x1000 4096 gdrPinFlagDefault) rfl⟩

/-! ### Programs of closing functions -/

mutual

/-- The statements of programs built from closing functions that leave the locals of the
function they run in as they found them: harmless statements and calls of closing functions,
under blocks, loops and `try` statements. -/
inductive Stmt.Closing : Stmt → Prop
  | harmless {s : Stmt} : s.harmless → Stmt.Closing s
  | seq {first second : Stmt} : Stmt.Closing first → Stmt.Closing second →
      Stmt.Closing (.seq first second)
  | loop (n : Nat) {body : Stmt} : Stmt.Closing body → Stmt.Closing (.loop n body)
  | tryExcept (clause : Catch) {body handler : Stmt} : Stmt.Closing body →
      Stmt.Closing handler → Stmt.Closing (.tryExcept body clause handler)
  | tryFinally {body final : Stmt} : Stmt.Closing body → Stmt.Closing final →
      Stmt.Closing (.tryFinally body final)
  | call {body : Stmt} : Stmt.ClosingBody body → Stmt.Closing (.call body)

/-- The bodies of closing functions: the examples' pattern, after statements that bind
nothing and inside `try` statements whose handlers are harmless. Such a function creates its
instance once the functions it called have returned, and calls none while it holds it. -/
inductive Stmt.ClosingBody : Stmt → Prop
  | pattern (pin : Pin) {rest : Stmt} : rest.harmless →
      Stmt.ClosingBody (.seqs [.newInstance, .invoke (.gdr .open),
        .tryFinally (.seq (.assignHandle pin) rest) (.invoke (.gdr .close))])
  | seq {first second : Stmt} : Stmt.Closing first → Stmt.ClosingBody second →
      Stmt.ClosingBody (.seq first second)
  | tryExcept (clause : Catch) {body handler : Stmt} : Stmt.ClosingBody body →
      handler.harmless → Stmt.ClosingBody (.tryExcept body clause handler)
  | closing {s : Stmt} : Stmt.Closing s → Stmt.ClosingBody s

end

mutual

/-- A statement of a program of closing functions is tidy: one rule per form. -/
theorem Stmt.Closing.tidy : {s : Stmt} → s.Closing → s.Tidy
  | _, .harmless harmless => .of_harmless harmless
  | _, .seq first second => .seq first.tidy second.tidy
  | _, .loop n body => .loop n body.tidy
  | _, .tryExcept clause body handler => .tryExcept clause body.tidy handler.tidy
  | _, .tryFinally body final => .tryFinally body.tidy final.tidy
  | _, .call body => .call body.tidyFrame

/-- The body of a closing function is a tidy frame. -/
theorem Stmt.ClosingBody.tidyFrame : {s : Stmt} → s.ClosingBody → s.TidyFrame
  | _, .pattern pin harmless => .closing pin harmless
  | _, .seq first second => .seq first.tidy second.tidyFrame
  | _, .tryExcept clause body harmless => .tryExcept body.tidyFrame harmless clause
  | _, .closing s => s.tidy.frame

end

theorem Stmt.Closing.seqs : {stmts : List Stmt} → (∀ s ∈ stmts, s.Closing) →
    (Stmt.seqs stmts).Closing
  | [], _ => .harmless rfl
  | [s], closing => closing s (List.mem_singleton_self s)
  | s :: _ :: _, closing =>
    .seq (closing s (List.mem_cons_self _ _))
      (seqs fun _ mem => closing _ (List.mem_cons_of_mem s mem))

theorem Stmt.Closing.forEach {α : Type} {items : List α} {body : α → Stmt}
    (closing : ∀ item ∈ items, (body item).Closing) : (Stmt.forEach items body).Closing :=
  seqs fun _ mem => by
    obtain ⟨item, member, rfl⟩ := List.mem_map.mp mem
    exact closing item member

/-- Every program built from closing functions, on every driver, from every state and on
every path its exceptions take: its calls, the destructors of its functions' locals included,
close every context they open and pass no pin token to `gdr_unpin_buffer` and no mapping to
`gdr_unmap`, and it leaves the locals of the function it runs in as they were. -/
theorem closing_programs_are_tidy {s : Stmt} (closing : s.Closing) (driver : Driver)
    (st : Exec) :
    (s.exec driver st).1.frame = st.frame ∧
      ClosesFrom st.world.trace (s.exec driver st).1.world.trace :=
  closing.tidy driver st

/-- Both examples, with nothing failing around the bindings, are programs of closing
functions; so `cuda_integration.py`'s twelve benchmarks, run from the start on the mock
driver, close every context they open and release nothing. -/
theorem examples_are_closing_programs :
    (Stmt.call (BasicExample.main (fun _ => none) 0 0)).Closing ∧
      (Stmt.call (CudaIntegration.main (fun _ _ => none) (fun _ => 0) (fun _ => 0))).Closing ∧
      ((Stmt.call (CudaIntegration.main (fun _ _ => none) (fun _ => 0) (fun _ => 0))).exec
          mockDriver ⟨World.init, .fresh⟩).1.frame = .fresh ∧
        ClosesFrom [] ((Stmt.call (CudaIntegration.main (fun _ _ => none) (fun _ => 0)
          (fun _ => 0))).exec mockDriver ⟨World.init, .fresh⟩).1.world.trace :=
  have basic : (Stmt.call (BasicExample.main (fun _ => none) 0 0)).Closing :=
    .call (.tryExcept .exception (.seq (.harmless rfl) (.seq (.harmless rfl)
      (.tryExcept .importError (.seq (.harmless rfl) (.seq (.harmless rfl) (.pattern _ rfl)))
        rfl))) rfl)
  have benchmark (sizeMb : Nat) (useForcePcie : Bool) : (Stmt.call
      (CudaIntegration.benchmarkTransfer sizeMb useForcePcie (fun _ => none) 0 0)).Closing :=
    .call (.seq (.harmless rfl) (.seq (.harmless rfl) (.pattern _ rfl)))
  have cuda :
      (Stmt.call (CudaIntegration.main (fun _ _ => none) (fun _ => 0) (fun _ => 0))).Closing :=
    .call <| .closing <| .seq (.harmless rfl)
      (.seq (.forEach fun ⟨_, size⟩ _ => .seq (benchmark size false) (.harmless rfl))
        (.seq (.forEach fun ⟨_, size⟩ _ => .seq (.call (.closing (.seq (.harmless rfl)
            (.seq (.harmless rfl) (.seq (benchmark size false) (.harmless rfl))))))
            (.harmless rfl))
          (.forEach fun ⟨_, size⟩ _ => .seq (benchmark size true) (.harmless rfl))))
  ⟨basic, cuda, closing_programs_are_tidy cuda mockDriver ⟨World.init, .fresh⟩⟩

end GdrCopy
