/-
# The callers: function bodies over the bindings

The examples call the bindings from Python functions that use `try`/`finally`,
`try`/`except`, `return` inside `try`, `for _ in range(n)` and calls of other such functions.
An exception skips the rest of its block up to the nearest `except` clause that names it. A
`finally` block runs on every exit from its `try`, and an exit of its own replaces the
`try`'s. When a function ends its locals die. A handle holds the instance that pinned it, so
the handle bound to `handle` is collected first and the instance after it: `GDRHandle.__del__`
runs, then `GDRCopy.__del__`, and what they raise is ignored. A handle that a statement drops
unbound, or that `handle` stops naming, is collected at once.

Every method call is `World.apply` of its operation, so what is proved of programs of
operations holds of the calls a statement makes. The code around the bindings (CuPy, NumPy,
`time`, `print`, the bandwidth arithmetic) is kept as the places where it can raise. The world
holds one instance: a function creates at most one, and calls no function that creates another
while it holds its own. A function that raises keeps its frame alive in the traceback; here its
locals die when it exits, which is the same wherever their destructors make no call.

A statement is harmless when its methods neither open, close nor release anything; such a
statement keeps the frame and the instance, whatever the driver answers (`Stmt.harmless_run`).
-/

import GdrCopy.Protocol.Cleanup
import GdrCopy.Protocol.ErrorChannel

namespace GdrCopy

/-! ### Syntax -/

/-- What a statement can raise: an exception of the bindings, `NameError` for `handle` read
before anything was bound to it, `ImportError` for `import cupy`, or an exception of the code
around the bindings. -/
inductive Thrown
  | py (error : PyError)
  | nameError
  | importError
  | foreign

/-- The exception an `except` clause names. -/
inductive Catch
  | exception
  | importError

/-- `except Exception` catches everything a statement raises, `except ImportError` only a
failed import. -/
def Catch.catches : Catch → Thrown → Bool
  | .exception, _ => true
  | .importError, .importError => true
  | .importError, _ => false

/-- How a statement ended. -/
inductive Signal
  | normal
  | returned
  | raised (thrown : Thrown)

/-- The exit of a method call: what it raised, if anything. -/
def Signal.ofRaised : Option PyError → Signal
  | some error => .raised (.py error)
  | none => .normal

/-- How a call ends for its caller: a `return` falls through, an exception propagates. -/
def Signal.ofCall : Signal → Signal
  | .raised thrown => .raised thrown
  | _ => .normal

/-- A pin, whose result a function binds to `handle`. -/
inductive Pin
  | pinBuffer (addr size p2pToken vaSpace : Int)
  | pinBufferV2 (addr size flags : Int)

/-- The method a pin calls. -/
def Pin.op : Pin → ContextOp
  | .pinBuffer addr size p2pToken vaSpace => .pinBuffer addr size p2pToken vaSpace
  | .pinBufferV2 addr size flags => .pinBufferV2 addr size flags

/-- A method call: on the function's instance `gdr`, on its `handle`, or a module
function. -/
inductive Method
  | gdr (op : ContextOp)
  | handle (op : HandleOp)
  | module (op : ModuleOp)

/-- The statements of the examples, as far as they reach the bindings. `assignHandle` is
`handle = gdr.<pin>(...)`, `newInstance` is `gdr = GDRCopy()`, `loop n` is
`for _ in range(n)`, and `call body` calls a function whose body is `body`. -/
inductive Stmt
  | pass
  | raises (thrown : Thrown)
  | invoke (method : Method)
  | assignHandle (pin : Pin)
  | newInstance
  | seq (first second : Stmt)
  | tryFinally (body final : Stmt)
  | tryExcept (body : Stmt) (clause : Catch) (handler : Stmt)
  | loop (n : Nat) (body : Stmt)
  | ret
  | call (body : Stmt)

/-- A block of statements. -/
def Stmt.seqs : List Stmt → Stmt
  | [] => .pass
  | [stmt] => stmt
  | stmt :: next :: rest => .seq stmt (seqs (next :: rest))

/-- A stretch of code around the bindings: it raises what its environment makes it raise, if
anything. -/
def Stmt.outside : Option Thrown → Stmt
  | some thrown => .raises thrown
  | none => .pass

/-- `for item in items:` over a list fixed before the loop. -/
def Stmt.forEach {α : Type} (items : List α) (body : α → Stmt) : Stmt := seqs (items.map body)

/-! ### State -/

/-- The locals of a function that hold objects of the bindings: whether `gdr` names an
instance the function created, and the handle `handle` names, by its place in the world. -/
structure Frame where
  gdr : Bool
  handle : Option Nat

/-- The frame of a function that has bound nothing yet. -/
def Frame.fresh : Frame := ⟨false, none⟩

/-- The destructors that run when the frame's locals die: the handle's, then the
instance's. -/
def Frame.dels (frame : Frame) : List Op :=
  frame.handle.toList.map (fun index => .handle index .del) ++
    if frame.gdr then [.context .del] else []

/-- A running function: the world and its frame. -/
structure Exec where
  world : World
  frame : Frame

/-! ### Statements -/

namespace Exec

/-- One method call: the world after it, and the exit of what it raised. -/
def perform (driver : Driver) (st : Exec) (op : Op) : Exec × Signal :=
  (⟨st.world.apply driver op, st.frame⟩, .ofRaised (st.world.raised driver op))

/-- The handle a pin appended to `after`, when nothing binds it. -/
def dropped (before after : World) : List Op :=
  if before.handles.length < after.handles.length then [.handle before.handles.length .del]
  else []

/-- A method call as a statement of its own. The handle a pin returns there is bound to
nothing and collected at once; a method of `handle` before anything was bound to it raises
`NameError`. -/
def invoke (driver : Driver) (st : Exec) : Method → Exec × Signal
  | .gdr op =>
      let r := st.perform driver (.context op)
      (⟨r.1.world.run driver (dropped st.world r.1.world), st.frame⟩, r.2)
  | .handle op =>
      match st.frame.handle with
      | some index => st.perform driver (.handle index op)
      | none => (st, .raised .nameError)
  | .module op => st.perform driver (.module op)

/-- `handle = gdr.<pin>(...)`: on success `handle` names the new handle, the last of the
world's, and the handle it named before, if any, is collected. -/
def assignHandle (driver : Driver) (st : Exec) (pin : Pin) : Exec × Signal :=
  match st.perform driver (.context pin.op) with
  | (st', .normal) =>
      (⟨st'.world.run driver (st.frame.handle.toList.map fun index => .handle index .del),
        { st.frame with handle := some st.world.handles.length }⟩, .normal)
  | other => other

/-- Sequencing: `next` runs only after a statement that fell through. -/
def andThen (r : Exec × Signal) (next : Exec → Exec × Signal) : Exec × Signal :=
  match r with
  | (st, .normal) => next st
  | other => other

/-- `for _ in range(n)`: the body, `n` times, until a run does not fall through. -/
def iterate (body : Exec → Exec × Signal) : Nat → Exec → Exec × Signal
  | 0, st => (st, .normal)
  | n + 1, st => andThen (body st) (iterate body n)

/-- An `except` clause: its handler runs on what it catches. -/
def catching (r : Exec × Signal) (clause : Catch) (handler : Exec → Exec × Signal) :
    Exec × Signal :=
  match r with
  | (st, .raised thrown) => if clause.catches thrown then handler st else (st, .raised thrown)
  | other => other

/-- A `finally` block: it runs on the state its `try` left, and an exit of its own replaces
the `try`'s. -/
def finalize (r : Exec × Signal) (final : Exec → Exec × Signal) : Exec × Signal :=
  match final r.1 with
  | (st, .normal) => (st, r.2)
  | other => other

end Exec

/-- A statement, run. -/
def Stmt.exec (driver : Driver) : Stmt → Exec → Exec × Signal
  | .pass, st => (st, .normal)
  | .raises thrown, st => (st, .raised thrown)
  | .invoke method, st => st.invoke driver method
  | .assignHandle pin, st => st.assignHandle driver pin
  | .newInstance, st =>
      (⟨{ st.world with gdr := GDRCopy.init }, { st.frame with gdr := true }⟩, .normal)
  | .seq first second, st => Exec.andThen (first.exec driver st) (second.exec driver)
  | .tryFinally body final, st => Exec.finalize (body.exec driver st) (final.exec driver)
  | .tryExcept body clause handler, st =>
      Exec.catching (body.exec driver st) clause (handler.exec driver)
  | .loop n body, st => Exec.iterate (body.exec driver) n st
  | .ret, st => (st, .returned)
  | .call body, st =>
      let r := body.exec driver ⟨st.world, .fresh⟩
      (⟨r.1.world.run driver r.1.frame.dels, st.frame⟩, r.2.ofCall)

/-! ### Harmless statements -/

/-- The methods that neither open, close nor release anything: the attribute query, the
module functions, and the methods of a handle other than `unpin`, `unmap` and `__del__`. -/
def Method.harmless : Method → Bool
  | .gdr (.getAttribute _) => true
  | .gdr _ => false
  | .handle .unpin | .handle .unmap | .handle .del => false
  | .handle _ => true
  | .module _ => true

/-- Statements of harmless methods, with no pin, no new instance and no call. -/
def Stmt.harmless : Stmt → Bool
  | .pass | .raises _ | .ret => true
  | .invoke method => method.harmless
  | .assignHandle _ | .newInstance | .call _ => false
  | .seq first second | .tryFinally first second => first.harmless && second.harmless
  | .tryExcept body _ handler => body.harmless && handler.harmless
  | .loop _ body => body.harmless

@[simp] theorem Stmt.harmless_outside (thrown : Option Thrown) : (outside thrown).harmless := by
  cases thrown <;> rfl

/-- A call that neither opens nor closes a context and releases neither a pin nor a
mapping. -/
def DriverCall.neutral : DriverCall → Bool
  | .gdrOpen | .gdrClose _ | .gdrUnpinBuffer .. | .gdrUnmap .. => false
  | _ => true

/-- `trace'` is `trace` followed by neutral calls. -/
def NeutralFrom (trace trace' : Trace) : Prop :=
  ∃ later, trace' = later ++ trace ∧ ∀ e ∈ later, e.call.neutral

namespace NeutralFrom

theorem refl (trace : Trace) : NeutralFrom trace trace :=
  ⟨[], rfl, fun _ mem => absurd mem (List.not_mem_nil _)⟩

theorem trans {trace trace' trace'' : Trace} :
    NeutralFrom trace trace' → NeutralFrom trace' trace'' → NeutralFrom trace trace''
  | ⟨first, hfirst, nfirst⟩, ⟨second, hsecond, nsecond⟩ =>
    ⟨second ++ first, by rw [hsecond, hfirst, List.append_assoc], fun e mem =>
      (List.mem_append.mp mem).elim (nsecond e) (nfirst e)⟩

theorem single {trace : Trace} {e : Event} (neutral : e.call.neutral) :
    NeutralFrom trace (e :: trace) :=
  ⟨[e], rfl, fun _ mem => List.eq_of_mem_singleton mem ▸ neutral⟩

/-- A method run that made no call, or one neutral call. -/
theorem of_cases {σ α : Type} {outcome : Outcome σ α} {self : σ} {trace : Trace}
    (cases : outcome.Quiet self trace ∨ ∃ e : Event, outcome.trace = e :: trace ∧ e.call.neutral) :
    NeutralFrom trace outcome.trace := by
  rcases cases with quiet | ⟨e, traced, neutral⟩
  · exact quiet.2.1 ▸ refl trace
  · exact traced ▸ single neutral

end NeutralFrom

/-- A run from `st` to `st'` kept the instance and made only neutral calls. -/
def Exec.Keeps (st st' : Exec) : Prop :=
  st'.world.gdr = st.world.gdr ∧ NeutralFrom st.world.trace st'.world.trace

/-- A harmless run: it kept the frame as well. -/
def Exec.Stays (st st' : Exec) : Prop := st'.frame = st.frame ∧ st.Keeps st'

theorem Exec.Stays.refl (st : Exec) : st.Stays st := ⟨rfl, rfl, .refl _⟩

theorem Exec.Stays.trans {st st' st'' : Exec} (first : st.Stays st') (second : st'.Stays st'') :
    st.Stays st'' :=
  ⟨second.1.trans first.1, second.2.1.trans first.2.1, first.2.2.trans second.2.2⟩

variable {driver : Driver}

/-- The methods of a handle that a harmless statement may call make at most one neutral
call. -/
theorem HandleOp.neutral_run {op : HandleOp} (harmless : (Method.handle op).harmless = true)
    (issuer : Issuer) (gdr : GDRCopy) (self : GDRHandle) (trace : Trace) :
    NeutralFrom trace (op.run driver issuer gdr self trace).2 := by
  cases op <;> cases harmless <;> refine @NeutralFrom.of_cases _ _ _ self _ ?_
  case getInfo =>
    rcases cached : self.info with _ | info
    · rw [GDRHandle.getInfo_of_uncached cached]
      rcases @GDRHandle.queryInfo_cases driver issuer gdr self trace with quiet | ⟨_, _, -, -, run⟩
      · exact .inl quiet
      · exact .inr ⟨_, by rw [run]; dsimp only; split <;> rfl, by rfl⟩
    · exact .inl (by simp [GDRHandle.getInfo_of_cached cached, Outcome.Quiet])
  case map size =>
    rcases @GDRHandle.map_cases driver issuer gdr self trace size with
      quiet | ⟨_, _, _, -, -, -, -, run⟩
    · exact .inl quiet
    · exact .inr ⟨_, by rw [run]; dsimp only; split <;> rfl, by rfl⟩
  case copyToMapping hostPtr size =>
    rcases @GDRHandle.copyToMapping_cases driver issuer self trace hostPtr size with
      quiet | ⟨_, _, _, -, -, -, -, run⟩
    · exact .inl quiet
    · exact .inr ⟨_, by rw [run], by rfl⟩
  case copyFromMapping hostPtr size =>
    rcases @GDRHandle.copyFromMapping_cases driver issuer self trace hostPtr size with
      quiet | ⟨_, _, _, -, -, -, -, run⟩
    · exact .inl quiet
    · exact .inr ⟨_, by rw [run], by rfl⟩
  case getCallbackFlag =>
    rcases @GDRHandle.getCallbackFlag_cases driver issuer gdr self trace with
      quiet | ⟨_, _, -, -, run⟩
    · exact .inl quiet
    · exact .inr ⟨_, by rw [run], by rfl⟩

/-- A harmless method call keeps the frame and the instance and makes at most one neutral
call. -/
theorem Exec.invoke_stays {method : Method} (harmless : method.harmless = true) (st : Exec) :
    st.Stays (st.invoke driver method).1 := by
  rcases method with op | op | op
  · cases op <;> cases harmless
    rename_i attr
    rcases @GDRCopy.getAttribute_cases driver .context st.world.gdr st.world.trace attr with
      quiet | ⟨_, _, -, -, -, run⟩
    · simp [invoke, perform, World.apply, ContextOp.run, World.withContext_quiet _ quiet, dropped]
      exact .refl st
    · refine ⟨rfl, ?_, ?_⟩ <;>
        simp [invoke, perform, World.apply, ContextOp.run, World.withContext, run, dropped]
      exact .single rfl
  · rcases bound : st.frame.handle with _ | index
    · simpa [invoke, bound] using .refl st
    rcases found : st.world.handles[index]? with _ | self
    · simpa [invoke, bound, perform, World.apply_handle_none _ found] using .refl st
    · simpa [invoke, bound, perform, World.apply_handle _ found, Stays, Keeps] using
        HandleOp.neutral_run harmless (.handle index) st.world.gdr self st.world.trace
  · cases op
    · exact ⟨rfl, rfl, .single rfl⟩
    · exact ⟨rfl, rfl, NeutralFrom.of_cases (getDriverVersion_cases driver .module st.world.gdr
        st.world.trace |>.imp_right fun ⟨_, _, run⟩ => ⟨_, by rw [run], by rfl⟩)⟩

/-! ### Runs of statements -/

section Combinators

variable {R : Exec → Exec → Prop} {st : Exec}

theorem Exec.andThen_rel (chain : ∀ {a b c}, R a b → R b c → R a c) {r : Exec × Signal}
    {next : Exec → Exec × Signal} (first : R st r.1) (second : ∀ st', R st' (next st').1) :
    R st (andThen r next).1 := by
  rcases r with ⟨st', _ | _ | _⟩
  · exact chain first (second st')
  all_goals exact first

theorem Exec.iterate_rel (chain : ∀ {a b c}, R a b → R b c → R a c) (refl : ∀ a, R a a)
    {body : Exec → Exec × Signal} (step : ∀ st', R st' (body st').1) (n : Nat) :
    ∀ st, R st (iterate body n st).1 := by
  induction n with
  | zero => exact refl
  | succ n more =>
    exact fun st => @andThen_rel R st chain (body st) (iterate body n) (step st) more

theorem Exec.catching_rel (chain : ∀ {a b c}, R a b → R b c → R a c) {r : Exec × Signal}
    {clause : Catch} {handler : Exec → Exec × Signal} (first : R st r.1)
    (second : ∀ st', R st' (handler st').1) :
    R st (catching r clause handler).1 := by
  rcases r with ⟨st', _ | _ | thrown⟩
  · exact first
  · exact first
  · show R st (if clause.catches thrown then handler st' else (st', .raised thrown)).1
    split
    · exact chain first (second st')
    · exact first

theorem Exec.finalize_fst (r : Exec × Signal) (final : Exec → Exec × Signal) :
    (finalize r final).1 = (final r.1).1 := by
  rcases run : final r.1 with ⟨st', _ | _ | _⟩ <;> simp [finalize, run]

theorem Exec.finalize_rel (chain : ∀ {a b c}, R a b → R b c → R a c) {r : Exec × Signal}
    {final : Exec → Exec × Signal} (first : R st r.1) (second : ∀ st', R st' (final st').1) :
    R st (finalize r final).1 :=
  finalize_fst r final ▸ chain first (second r.1)

end Combinators

/-- What every harmless method call does to a state, every harmless statement does: one
induction over the statement, one combinator lemma per form. -/
theorem Stmt.harmless_rel {R : Exec → Exec → Prop} (refl : ∀ st, R st st)
    (chain : ∀ {a b c}, R a b → R b c → R a c)
    (invoke : ∀ method : Method, method.harmless → ∀ st, R st (st.invoke driver method).1)
    {s : Stmt} (harmless : s.harmless) (st : Exec) : R st (s.exec driver st).1 := by
  induction s generalizing st with
  | pass | raises | ret => exact refl st
  | invoke method => exact invoke method harmless st
  | assignHandle | newInstance | call => cases harmless
  | seq first second hfirst hsecond =>
    simp only [Stmt.harmless, Bool.and_eq_true] at harmless
    exact Exec.andThen_rel @chain (hfirst harmless.1 st) (hsecond harmless.2)
  | tryFinally body final hbody hfinal =>
    simp only [Stmt.harmless, Bool.and_eq_true] at harmless
    exact Exec.finalize_rel @chain (hbody harmless.1 st) (hfinal harmless.2)
  | tryExcept body clause handler hbody hhandler =>
    simp only [Stmt.harmless, Bool.and_eq_true] at harmless
    exact Exec.catching_rel @chain (hbody harmless.1 st) (hhandler harmless.2)
  | loop n body hbody => exact Exec.iterate_rel @chain refl (hbody harmless) n st

/-- A harmless statement keeps the frame and the instance and makes only neutral calls, on
every path through its `try` blocks and loops and whatever the driver answers. -/
theorem Stmt.harmless_run {s : Stmt} (harmless : s.harmless) (st : Exec) :
    st.Stays (s.exec driver st).1 :=
  harmless_rel .refl .trans (fun _ harmless st => Exec.invoke_stays harmless st) harmless st

/-! ### The instance's life in a function -/

/-- `gdr.open()` on an instance with no context: the context `gdr_open` returns is stored,
and a NULL raises. -/
theorem Exec.invoke_open {st : Exec} (free : truthy st.world.gdr.handle = false) :
    st.invoke driver (.gdr .open) =
      let g : Nat := driver st.world.trace .gdrOpen
      (⟨{ st.world with gdr := ⟨some g⟩, trace := ⟨.context, .gdrOpen, g⟩ :: st.world.trace },
          st.frame⟩,
        if g = 0 then .raised (.py (.gdr (.new (-1) "Failed to open GDRCopy"))) else .normal) := by
  by_cases null : @Eq Nat (driver st.world.trace .gdrOpen) 0 <;>
    simp [invoke, perform, World.apply, World.raised, ContextOp.run, ContextOp.raised,
      World.withContext, GDRCopy.open_of_not_truthy free, dropped, null, raisedBy, Signal.ofRaised]

/-- `gdr.close()` on a live context: the context is dropped and passed to `gdr_close`. -/
theorem Exec.invoke_close {st : Exec} {g : Nat} (held : st.world.gdr.handle = some g)
    (live : g ≠ 0) :
    (st.invoke driver (.gdr .close)).1 =
      ⟨{ st.world with
          gdr := ⟨none⟩
          trace := ⟨.context, .gdrClose g, driver st.world.trace (.gdrClose g)⟩ :: st.world.trace },
        st.frame⟩ := by
  simp [invoke, perform, World.apply, ContextOp.run, World.withContext,
    GDRCopy.close_of_truthy held live, dropped]

/-- A pin keeps the instance and makes at most one call, the pin itself. -/
theorem World.pin_keeps (pin : Pin) (world : World) :
    (world.apply driver (.context pin.op)).gdr = world.gdr ∧
      NeutralFrom world.trace (world.apply driver (.context pin.op)).trace := by
  cases pin with
  | pinBuffer addr size p2pToken vaSpace =>
    rcases @GDRCopy.pinBuffer_cases driver .context world.gdr world.trace addr size p2pToken
      vaSpace with ⟨_, -, run⟩ | ⟨_, _, _, _, _, -, -, -, -, -, -, run⟩ <;>
      simp only [Pin.op, World.apply, ContextOp.run, World.withPin, run]
    · exact ⟨trivial, .refl _⟩
    · exact ⟨trivial, .single rfl⟩
  | pinBufferV2 addr size flags =>
    rcases @GDRCopy.pinBufferV2_cases driver .context world.gdr world.trace addr size flags with
      ⟨_, -, run⟩ | ⟨_, _, _, _, -, -, -, -, -, run⟩ <;>
      simp only [Pin.op, World.apply, ContextOp.run, World.withPin, run]
    · exact ⟨trivial, .refl _⟩
    · exact ⟨trivial, .single rfl⟩

/-- Binding a pin's handle to an unbound `handle` collects nothing, so the statement keeps the
instance and makes at most the pin's call. -/
theorem Exec.assignHandle_keeps {st : Exec} (unbound : st.frame.handle = none) (pin : Pin) :
    st.Keeps (st.assignHandle driver pin).1 := by
  obtain ⟨same, neutral⟩ := @World.pin_keeps driver pin st.world
  rcases h : Signal.ofRaised (st.world.raised driver (.context pin.op)) with _ | _ | _ <;>
    simp only [assignHandle, perform, h, unbound, Option.toList_none, List.map_nil,
      World.run_nil] <;> exact ⟨same, neutral⟩

/-- The destructors of the frame's locals make no call: a bound handle outlives the instance's
context, and an instance the function made holds no live context. -/
def Frame.Quiet (frame : Frame) (world : World) : Prop :=
  (frame.handle.isSome → world.gdr.handle = none) ∧ (frame.gdr → truthy world.gdr.handle = false)

theorem Frame.quiet_of_closed {frame : Frame} {world : World} (closed : world.gdr.handle = none) :
    frame.Quiet world :=
  ⟨fun _ => closed, fun _ => by rw [closed]; rfl⟩

theorem World.run_dels_of_quiet {frame : Frame} {world : World} (quiet : frame.Quiet world) :
    world.run driver frame.dels = world := by
  obtain ⟨handleQuiet, gdrQuiet⟩ := quiet
  have noContext : world.run driver (if frame.gdr then [.context .del] else []) = world := by
    split
    · rename_i made
      simp [World.apply, ContextOp.run, GDRCopy.del, GDRCopy.close_of_not_truthy (gdrQuiet made),
        World.withContext]
    · rfl
  rcases bound : frame.handle with _ | index
  · simpa [Frame.dels, bound] using noContext
  · simpa [Frame.dels, bound, World.apply_del_of_closed (handleQuiet (by simp [bound]))] using
      noContext

end GdrCopy
