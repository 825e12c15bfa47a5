/-
# Every call is issued with live resources

A pin token is held by the handle it was pinned for until that handle's `gdr_unpin_buffer`,
and the handles hold no other tokens: counted per value, pins balance unpins and holders the
way `ContextLedger` balances contexts. With both ledgers every call the bindings issue passes
a token not yet unpinned, and the instance's own methods pass the context they hold.

A handle's methods and `get_driver_version` pass whatever context the instance holds when
they run. That is live, but after `close` and a second `open` it is not the context the
handle's token was pinned under, which a run below exhibits.
-/

import GdrCopy.Protocol.ContextLedger
import GdrCopy.Protocol.Scenario

namespace GdrCopy

/-- How many handles hold the token `t` in `_handle`. -/
def holders (t : GdrMh) (handles : List GDRHandle) : Nat :=
  handles.countP fun self => decide (self.handle = some t)

/-- Counted per value, the tokens obtained from a pin and not yet passed to
`gdr_unpin_buffer` are exactly those the handles hold. -/
def TokenLedger (world : World) : Prop :=
  ∀ t, pinned t world.trace = unpinned t world.trace + holders t world.handles

namespace GDRHandle

variable {driver : Driver} {issuer : Issuer} {gdr : GDRCopy} {self self' : GDRHandle}
  {trace : Trace} {event : Event}

/-- A handle's call pins nothing, and unpins exactly the token it drops from `_handle`. -/
theorem Call.tokens (call : Call driver issuer gdr self trace event self') (t : GdrMh) :
    event.pins t = false ∧ (if self.handle = some t then 1 else 0) =
      (if event.unpins t then 1 else 0) + if self'.handle = some t then 1 else 0 := by
  cases call with
  | @unpin _ handle _ owned =>
      by_cases same : handle = t <;> simp [Event.pins, Event.unpins, owned, same]
  | queryInfo _ _ _ | map _ _ _ _ _ => simp [Event.pins, Event.unpins, apply_ite GDRHandle.handle]
  | _ => simp [Event.pins, Event.unpins]

/-- A handle's call passes the instance's context and its own token. -/
theorem Call.args (call : Call driver issuer gdr self trace event self') :
    (∀ g, event.call.context = some g → gdr.handle = some g) ∧
      ∀ t, event.call.token = some t → self.handle = some t := by
  cases call <;> simp_all [DriverCall.context, DriverCall.token]

end GDRHandle

variable {driver : Driver} {world world' : World}

theorem holders_pinned (t : GdrMh) (handles : List GDRHandle) (reply : Int × GdrMh) :
    holders t (World.pinned handles reply) =
      holders t handles + if reply.1 = 0 ∧ reply.2 = t then 1 else 0 := by
  unfold World.pinned
  split <;> simp_all [holders, GDRHandle.init, List.countP_cons]

theorem tokenLedger_init : TokenLedger World.init := by
  simp [TokenLedger, World.init, holders]

theorem Step.tokenLedger (step : Step driver world world') (ledger : TokenLedger world) :
    TokenLedger world' := by
  intro t
  have before := ledger t
  cases step with
  | pinBuffer _ _ _ _ _ _ | pinBufferV2 _ _ _ _ _ =>
      simp [holders_pinned, Event.pins, Event.unpins, before, Nat.add_assoc]
  | @handle index self self' event found call =>
      obtain ⟨bound, rfl⟩ := List.getElem?_eq_some_iff.mp found
      have ⟨noPin, balance⟩ := call.tokens t
      have held := List.boole_getElem_le_countP (fun self => decide (self.handle = some t))
        world.handles index bound
      simp only [decide_eq_true_eq] at held
      simp only [holders, List.countP_set _ _ _ _ bound, pinned_cons, unpinned_cons, noPin,
        decide_eq_true_eq, Bool.false_eq_true, if_false, add_zero] at before ⊢
      omega
  | _ => simpa [Event.pins, Event.unpins] using before

theorem tokenLedger_reachable (reachable : Reachable driver world) : TokenLedger world :=
  reachable.induction tokenLedger_init Step.tokenLedger

/-- The call was issued with live resources, judged by the calls `before` it: a non-NULL
context it passes was obtained from `gdr_open` and not yet passed to `gdr_close`, and the
instance's own methods pass no NULL one; a token it passes was obtained from a pin and not
yet passed to `gdr_unpin_buffer`. -/
def Event.Live (event : Event) (before : Trace) : Prop :=
  (∀ g, event.call.context = some g →
    (event.issuer = .context → g ≠ 0) ∧ (g ≠ 0 → closed g before < opened g before)) ∧
  ∀ t, event.call.token = some t → unpinned t before < pinned t before

/-- Every call of the trace was live when it was issued. -/
def CallsLive : Trace → Prop
  | [] => True
  | event :: before => event.Live before ∧ CallsLive before

theorem ContextLedger.live (ledger : ContextLedger world) {g : Nat}
    (held : world.gdr.handle = some g) (nonNull : g ≠ 0) :
    closed g world.trace < opened g world.trace := by
  have balance := ledger g
  simp only [GDRCopy.held, held, nonNull, true_and, ne_eq, not_false_eq_true, if_true] at balance
  omega

theorem TokenLedger.live (ledger : TokenLedger world) {index : Nat} {self : GDRHandle} {t : GdrMh}
    (found : world.handles[index]? = some self) (owned : self.handle = some t) :
    unpinned t world.trace < pinned t world.trace := by
  have holding : 0 < holders t world.handles :=
    List.countP_pos_iff.mpr ⟨self, List.getElem?_mem found, by simp [owned]⟩
  have balance := ledger t
  omega

/-- With both ledgers in place, the call a step issues is live. -/
theorem Step.live (step : Step driver world world') (contexts : ContextLedger world)
    (tokens : TokenLedger world) : ∃ event, world'.trace = event :: world.trace ∧
      event.Live world.trace := by
  cases step with
  | «open» _ | getVersion => exact ⟨_, rfl, nofun, nofun⟩
  | close held nonNull | pinBuffer _ _ _ _ held nonNull | pinBufferV2 _ _ _ held nonNull
  | getAttribute _ held nonNull =>
      refine ⟨_, rfl, fun g passed => ?_, nofun⟩
      cases passed
      exact ⟨fun _ => nonNull, fun _ => contexts.live held nonNull⟩
  | getDriverVersion held =>
      refine ⟨_, rfl, fun g passed => ?_, nofun⟩
      cases passed
      exact ⟨nofun, contexts.live held⟩
  | handle found call =>
      refine ⟨_, rfl, fun g passed => ⟨fun issued => ?_, contexts.live (call.args.1 g passed)⟩,
        fun t passed => tokens.live found (call.args.2 t passed)⟩
      cases call.issuer_eq.symm.trans issued

theorem callsLive_reachable (reachable : Reachable driver world) : CallsLive world.trace :=
  (@Reachable.induction driver
    (fun world => ContextLedger world ∧ TokenLedger world ∧ CallsLive world.trace)
    ⟨contextLedger_init, tokenLedger_init, trivial⟩
    (fun step ⟨contexts, tokens, live⟩ => by
      obtain ⟨event, next, issued⟩ := step.live contexts tokens
      exact ⟨step.contextLedger contexts, step.tokenLedger tokens, next ▸ ⟨issued, live⟩⟩)
    world reachable).2.2

/-- Whatever the program and whatever the driver answers, every call the bindings issue was
live when issued: the instance's own methods pass the context it holds, never NULL, a
non-NULL context passed by a handle or by `get_driver_version` is one the instance obtained
and has not closed, and every token passed was pinned and not yet unpinned. -/
theorem calls_issued_live (driver : Driver) (ops : List Op) :
    CallsLive (World.init.run driver ops).trace :=
  callsLive_reachable (World.reachable_run ops)

/-- Open, pin, close, open again, unpin. -/
def reopenRun : List Op :=
  [.context .open, .context (.pinBufferV2 0x1000 4096 gdrPinFlagDefault), .context .close,
    .context .open, .handle 0 .unpin]

/-- On the mock driver the pin under context 1 gives the handle token 2, and after context 1
is closed and context 4 opened, `unpin` passes token 2 with context 4. -/
theorem reopen_unpins_under_new_context :
    (World.init.run mockDriver (reopenRun.take 2)).handles = [GDRHandle.init ⟨2⟩] ∧
      (World.init.run mockDriver reopenRun).trace.map Event.call =
        [.gdrUnpinBuffer 4 ⟨2⟩, .gdrOpen, .gdrClose 1, .gdrPinBufferV2 1 4096 4096 0,
          .gdrOpen] := by
  decide

end GdrCopy
