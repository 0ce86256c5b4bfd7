import NewFramework.Tstlesrv.ClientCtx

/-!
# `CIOThread`

An IO thread (`tstlesrv/iothread.cpp`) with all the contexts it has made and its queue of idle
contexts.  A context is named by its place in the order of construction.  The thread hands an
accepted socket to a context, runs the handlers of the events, and takes a context back when
`close_connection` returns it.
-/

namespace NewFramework.Tstlesrv
open NewFramework.Lib NewFramework.Net

/-- `CIOThread`; `running` is lost with a failed assertion. -/
structure IoThread where
  contexts : List Context
  idleCtxs : List Nat
  running : Bool

/-- What the environment makes an IO thread do: a new item was taken from the queue, an event
fires, a process writes, or the transport of a context raises a signal. -/
inductive IoCall where
  | accept (socket : Socket) (rdAppState : AppState) (a : Answers)
  | event (i : Nat) (opr : Opr) (a : Answers)
  | writeBuffer (i : Nat) (buf : List UInt8) (a : Answers)
  | signal (i : Nat) (sig : Signal) (a : Answers)

namespace IoThread

def start : IoThread := ⟨[], [], true⟩

/-- The loop of `get_clientctx`: a context in use is dropped from the queue. -/
def popIdle (contexts : List Context) : List Nat → Option Nat × List Nat
  | [] => (none, [])
  | i :: rest =>
    if contexts[i]?.any fun c => c.client.isInUse then popIdle contexts rest else (some i, rest)

/-- `get_clientctx()`; `rdAppState` is what a new transport finds in memory. -/
def getClientctx (rdAppState : AppState) (io : IoThread) : Nat × IoThread :=
  match popIdle io.contexts io.idleCtxs with
  | (some i, rest) => (i, { io with idleCtxs := rest })
  | (none, rest) => (io.contexts.length,
      { io with contexts := io.contexts ++ [.new rdAppState], idleCtxs := rest })

/-- Context `i` has come to the end of a call, as `c`.  `return_clientctx` pushed it once for
every note of a return. -/
def settle (i : Nat) (c : Context) (io : IoThread) : IoThread :=
  { io with
    contexts := io.contexts.set i c
    idleCtxs := io.idleCtxs ++ List.replicate (c.notes.count .returned) i }

/-- `create_connection`, and the `close` of `thread_handle_newconnection` where it fails. -/
def createConnection (socket : Socket) (rdAppState : AppState) (a : Answers) (io : IoThread) :
    IoThread :=
  let (i, io) := io.getClientctx rdAppState
  match io.contexts[i]? with
  | none => io
  | some c =>
    let c := c.initOn socket a
    io.settle i (if c.alive then c else { c with notes := c.notes ++ [.closed socket] })

/-- A call on context `i`. -/
def callOn (i : Nat) (f : Context → Option Context) (io : IoThread) : Option IoThread :=
  if io.running then
    (io.contexts[i]?.bind f).map fun c => { io.settle i c with running := c.alive }
  else none

def step (io : IoThread) : IoCall → Option IoThread
  | .accept socket rdAppState a =>
    if io.running ∧ socket ≠ invalidSocket then some (io.createConnection socket rdAppState a)
    else none
  | .event i opr a => io.callOn i fun c => c.step (.event opr a)
  | .writeBuffer i buf a => io.callOn i fun c => c.step (.writeBuffer buf a)
  | .signal i sig a => io.callOn i fun c => if c.alive then some (c.raise sig a) else none

theorem callOn_some {io io' : IoThread} {i : Nat} {f : Context → Option Context}
    (moved : io.callOn i f = some io') :
    ∃ c c', io.contexts[i]? = some c ∧ f c = some c' ∧
      io' = { io.settle i c' with running := c'.alive } := by
  unfold callOn at moved
  split at moved
  · obtain ⟨c', called, rfl⟩ := Option.map_eq_some_iff.mp moved
    obtain ⟨c, held, called⟩ := Option.bind_eq_some_iff.mp called
    exact ⟨c, c', held, called, rfl⟩
  · contradiction

/-- A call on context `i`. -/
inductive Called (c : Context) (i : Nat) (a : Answers) : IoCall → Context → Prop
  | event {opr : Opr} {e : Assigned} (added : (c.client.ctx.event opr).added = true)
      (assigned : (c.client.ctx.event opr).assigned = some e) :
      Called c i a (.event i opr a) (c.handle e a)
  | writeBuffer {buf : List UInt8} (inUse : c.client.isInUse = true) :
      Called c i a (.writeBuffer i buf a)
        (c.after (some (c.transport.writeBuffer ctxSlots a.write buf (c.scene a)).2))
  | signal (sig : Signal) : Called c i a (.signal i sig a) (c.raise sig a)

/-- The ways an IO thread can move. -/
inductive Moved (io : IoThread) (call : IoCall) : IoThread → Prop
  | accept {socket : Socket} {rdAppState : AppState} {a : Answers} (valid : socket ≠ invalidSocket)
      (accepted : call = .accept socket rdAppState a) :
      Moved io call (io.createConnection socket rdAppState a)
  | called {i : Nat} {c c' : Context} {a : Answers} (held : io.contexts[i]? = some c)
      (alive : c.alive = true) (called : Called c i a call c') :
      Moved io call { io.settle i c' with running := c'.alive }

theorem step_moved {io io' : IoThread} {call : IoCall} (moved : io.step call = some io') :
    Moved io call io' := by
  cases call with
  | accept socket rdAppState a =>
    unfold step at moved
    dsimp only at moved
    split at moved
    · next enabled =>
      rw [← Option.some.inj moved]
      exact .accept enabled.2 rfl
    · contradiction
  | event i opr a =>
    obtain ⟨c, c', held, called, rfl⟩ := callOn_some moved
    obtain ⟨e, assigned, alive, added, rfl⟩ := Context.step_event called
    exact .called held alive (.event added assigned)
  | writeBuffer i buf a =>
    obtain ⟨c, c', held, called, rfl⟩ := callOn_some moved
    obtain ⟨alive, inUse, rfl⟩ := Context.step_writeBuffer called
    exact .called held alive (.writeBuffer inUse)
  | signal i sig a =>
    obtain ⟨c, c', held, called, rfl⟩ := callOn_some moved
    split at called
    · next alive =>
      rw [← Option.some.inj called]
      exact .called held alive (.signal sig)
    · contradiction

/-- The rule for a call on an open connection. -/
theorem Called.ended {Open Done : Scene → Prop} {c c' : Context} {i : Nat} {a : Answers}
    {call : IoCall} (called : Called c i a call c') (served : Served Open Done)
    (clear : ∀ {s}, Open s → Done (s.note (.signal .clearWriteEvent)))
    (before : Open (c.scene a)) : Context.Ended Done c c' := by
  cases called with
  | event => exact Context.handle_done served clear before _
  | @writeBuffer buf =>
    apply Context.after_done
    intro t s sent
    have ended := served.writeBuffer (t := c.transport) a.write buf before
    rw [Option.some.inj sent] at ended
    exact ended
  | signal sig => exact Context.raise_done served clear before sig

end IoThread

end NewFramework.Tstlesrv
