import Mathlib.Logic.Function.Basic
import NewFramework.Lib.Run
import NewFramework.Lib.SortedSet

/-!
# `sigslot.h`

The classes of `tstlesrv/sigslot.h`.  Signals hold connections to the objects they call, and a
`has_slots` object holds the set of its senders, so that whichever of the two is destroyed first can
take the other's pointers out.  Both are named by their addresses; an address may be used again
after its object is gone.  A call through a pointer to an object that is gone is a fault.  An object
is copied by the copy constructors, which the source defines; the assignments, which it does not,
are left out.

The two sides agree as long as no `disconnect` finds two connections to the same object: it
deletes the first one only, and still makes the object forget the signal.
-/

namespace NewFramework.Tstlesrv
open NewFramework.Lib

/-- `_connection0`: the object and the member function to call. -/
structure Connection where
  dest : Nat
  memfun : Nat
  deriving DecidableEq, Repr

/-- The signals with their `m_connected_slots`, and the `has_slots` objects with their
`m_senders`, by address. -/
structure Objects where
  signals : Nat → Option (List Connection)
  slots : Nat → Option (SortedSet Nat)

namespace Objects

/-- One call of an object that must be there. -/
def onSlots (o : Nat) (f : SortedSet Nat → SortedSet Nat) (w : Objects) : Option Objects :=
  (w.slots o).map fun senders => { w with slots := Function.update w.slots o (some (f senders)) }

def onSignal (sig : Nat) (f : List Connection → List Connection) (w : Objects) : Option Objects :=
  (w.signals sig).map fun connections =>
    { w with signals := Function.update w.signals sig (some (f connections)) }

/-- `signal_connect(sender)` of each of the objects in turn. -/
def signalConnect (sig : Nat) : List Nat → Objects → Option Objects
  | [], w => some w
  | o :: os, w => (w.onSlots o (·.insert sig)).bind (signalConnect sig os)

/-- `signal_disconnect(sender)` of each of the objects in turn. -/
def signalDisconnect (sig : Nat) : List Nat → Objects → Option Objects
  | [], w => some w
  | o :: os, w => (w.onSlots o (·.erase sig)).bind (signalDisconnect sig os)

/-- `slot_disconnect(pslot)` of each of the signals in turn. -/
def slotDisconnect (o : Nat) : List Nat → Objects → Option Objects
  | [], w => some w
  | sig :: sigs, w =>
    (w.onSignal sig fun cs => cs.filter (·.dest ≠ o)).bind (slotDisconnect o sigs)

/-- `slot_duplicate(poldslot, pnewslot)` of each of the signals in turn.  The duplicates go to the
end of the list that is walked, and are not duplicated again: they have the new object. -/
def slotDuplicate (old new : Nat) : List Nat → Objects → Option Objects
  | [], w => some w
  | sig :: sigs, w =>
    (w.onSignal sig fun cs =>
      cs ++ (cs.filter (·.dest = old)).map fun c => { c with dest := new }).bind
        (slotDuplicate old new sigs)

def dests (connections : List Connection) : List Nat := connections.map Connection.dest

/-- `signal0::connect(pclass, pmemfun)` -/
def connect (sig : Nat) (c : Connection) (w : Objects) : Option Objects :=
  (w.onSignal sig (· ++ [c])).bind (signalConnect sig [c.dest])

/-- `_signal_base0::disconnect(pclass)`: the first connection to the object is deleted. -/
def disconnect (sig o : Nat) (w : Objects) : Option Objects :=
  (w.signals sig).bind fun connections =>
    if o ∈ dests connections then
      (w.onSignal sig fun cs => cs.eraseP (·.dest = o)).bind (signalDisconnect sig [o])
    else some w

/-- `_signal_base0::disconnect_all()` -/
def signalDisconnectAll (sig : Nat) (w : Objects) : Option Objects :=
  (w.signals sig).bind fun connections =>
    (signalDisconnect sig (dests connections) w).bind (onSignal sig fun _ => [])

/-- `has_slots::disconnect_all()` -/
def slotsDisconnectAll (o : Nat) (w : Objects) : Option Objects :=
  (w.slots o).bind fun senders =>
    (slotDisconnect o senders.toList w).bind (onSlots o fun _ => .empty)

/-- The copy constructor of a signal, at the address `new`. -/
def copySignal (sig new : Nat) (w : Objects) : Option Objects :=
  (w.signals sig).bind fun connections =>
    (signalConnect new (dests connections) w).map fun w =>
      { w with signals := Function.update w.signals new (some connections) }

/-- The copy constructor of a `has_slots`, at the address `new`. -/
def copySlots (o new : Nat) (w : Objects) : Option Objects :=
  (w.slots o).bind fun senders =>
    (slotDuplicate o new senders.toList w).map fun w =>
      { w with slots := Function.update w.slots new (some senders) }

/-- `operator()`, with slots that leave the connections alone. -/
def emit (sig : Nat) (w : Objects) : Option Objects :=
  (w.signals sig).bind fun connections =>
    if ∀ c ∈ connections, (w.slots c.dest).isSome then some w else none

end Objects

/-- What a program does with its signals and objects. -/
inductive SlotOp where
  | newSignal (sig : Nat)
  | newSlots (o : Nat)
  | connect (sig : Nat) (c : Connection)
  | disconnect (sig o : Nat)
  | signalDisconnectAll (sig : Nat)
  | slotsDisconnectAll (o : Nat)
  | copySignal (sig new : Nat)
  | copySlots (o new : Nat)
  | deleteSignal (sig : Nat)
  | deleteSlots (o : Nat)
  | emit (sig : Nat)

namespace SlotOp

/-- The objects the caller names are there, and a new one has an address of its own. -/
def Permitted (w : Objects) : SlotOp → Prop
  | .newSignal sig => w.signals sig = none
  | .newSlots o => w.slots o = none
  | .connect sig c => (w.signals sig).isSome ∧ (w.slots c.dest).isSome
  | .disconnect sig o => (w.signals sig).isSome ∧ (w.slots o).isSome
  | .signalDisconnectAll sig | .deleteSignal sig | .emit sig => (w.signals sig).isSome
  | .slotsDisconnectAll o | .deleteSlots o => (w.slots o).isSome
  | .copySignal sig new => (w.signals sig).isSome ∧ w.signals new = none
  | .copySlots o new => (w.slots o).isSome ∧ w.slots new = none

instance (w : Objects) (op : SlotOp) : Decidable (op.Permitted w) := by
  cases op <;> unfold Permitted <;> infer_instance

/-- What a call does; `none` when it goes through a pointer to an object that is gone. -/
def apply (w : Objects) : SlotOp → Option Objects
  | .newSignal sig => some { w with signals := Function.update w.signals sig (some []) }
  | .newSlots o => some { w with slots := Function.update w.slots o (some .empty) }
  | .connect sig c => w.connect sig c
  | .disconnect sig o => w.disconnect sig o
  | .signalDisconnectAll sig => w.signalDisconnectAll sig
  | .slotsDisconnectAll o => w.slotsDisconnectAll o
  | .copySignal sig new => w.copySignal sig new
  | .copySlots o new => w.copySlots o new
  | .deleteSignal sig =>
    (w.signalDisconnectAll sig).map fun w =>
      { w with signals := Function.update w.signals sig none }
  | .deleteSlots o =>
    (w.slotsDisconnectAll o).map fun w => { w with slots := Function.update w.slots o none }
  | .emit sig => w.emit sig

end SlotOp

/-- A program: its objects, and whether it has called an object that is gone. -/
structure SlotProgram where
  objects : Objects
  faulted : Bool

namespace SlotProgram

def start : SlotProgram := ⟨⟨fun _ => none, fun _ => none⟩, false⟩

def step (p : SlotProgram) (op : SlotOp) : Option SlotProgram :=
  if p.faulted = false ∧ op.Permitted p.objects then
    match op.apply p.objects with
    | some w => some { p with objects := w }
    | none => some { p with faulted := true }
  else none

end SlotProgram

namespace Objects

/-! ## Who is connected, and who knows it -/

/-- The signal has a connection to the object. -/
def Connected (w : Objects) (sig o : Nat) : Prop :=
  ∃ connections, w.signals sig = some connections ∧ o ∈ dests connections

/-- The object has the signal among its senders. -/
def Knows (w : Objects) (o sig : Nat) : Prop :=
  ∃ senders, w.slots o = some senders ∧ sig ∈ senders

/-- Both sides of every link are there. -/
def Linked (w : Objects) : Prop := ∀ sig o, w.Connected sig o ↔ w.Knows o sig

section Links

variable {w : Objects} {sig sig' o o' : Nat} {connections : List Connection}
  {senders : SortedSet Nat}

theorem connected_iff (there : w.signals sig = some connections) :
    w.Connected sig o ↔ o ∈ dests connections := by
  simp [Connected, there]

theorem knows_iff (there : w.slots o = some senders) : w.Knows o sig ↔ sig ∈ senders := by
  simp [Knows, there]

theorem not_connected (gone : w.signals sig = none) : ¬w.Connected sig o := by
  simp [Connected, gone]

theorem not_knows (gone : w.slots o = none) : ¬w.Knows o sig := by
  simp [Knows, gone]

theorem Knows.isSome (knows : w.Knows o sig) : (w.slots o).isSome := by
  obtain ⟨senders, there, -⟩ := knows
  simp [there]

theorem Connected.isSome (connected : w.Connected sig o) : (w.signals sig).isSome := by
  obtain ⟨connections, there, -⟩ := connected
  simp [there]

theorem connected_update (x : Option (List Connection)) :
    Connected { w with signals := Function.update w.signals sig x } sig' o ↔
      if sig' = sig then ∃ cs, x = some cs ∧ o ∈ dests cs else w.Connected sig' o := by
  unfold Connected
  by_cases same : sig' = sig
  · subst same
    rw [if_pos rfl]
    simp only [Function.update_self]
  · rw [if_neg same]
    simp only [Function.update_of_ne same]

theorem knows_update (x : Option (SortedSet Nat)) :
    Knows { w with slots := Function.update w.slots o x } o' sig ↔
      if o' = o then ∃ senders, x = some senders ∧ sig ∈ senders else w.Knows o' sig := by
  unfold Knows
  by_cases same : o' = o
  · subst same
    rw [if_pos rfl]
    simp only [Function.update_self]
  · rw [if_neg same]
    simp only [Function.update_of_ne same]

end Links

/-! ## The walks over one side of the links -/

/-- A walk over slots: it leaves the signals alone and changes who knows them as `K` says. -/
structure SlotsWalk (w w' : Objects) (K : Nat → Nat → Prop) : Prop where
  signals : w'.signals = w.signals
  present : ∀ o, (w'.slots o).isSome = (w.slots o).isSome
  knows : ∀ o sig, w'.Knows o sig ↔ K o sig

/-- A walk over signals: it leaves the slots alone and changes who is connected as `C` says. -/
structure SignalsWalk (w w' : Objects) (C : Nat → Nat → Prop) : Prop where
  slots : w'.slots = w.slots
  present : ∀ sig, (w'.signals sig).isSome = (w.signals sig).isSome
  connected : ∀ sig o, w'.Connected sig o ↔ C sig o

theorem onSlots_walk {w : Objects} {o : Nat} {f : SortedSet Nat → SortedSet Nat}
    (there : (w.slots o).isSome) {K : Nat → Nat → Prop}
    (keeps : ∀ o' sig, o' ≠ o → (K o' sig ↔ w.Knows o' sig))
    (changes : ∀ senders, w.slots o = some senders → ∀ sig, K o sig ↔ sig ∈ f senders) :
    ∃ w', w.onSlots o f = some w' ∧ SlotsWalk w w' K := by
  obtain ⟨senders, eq⟩ := Option.isSome_iff_exists.mp there
  refine ⟨{ w with slots := Function.update w.slots o (some (f senders)) },
    by rw [onSlots, eq]; rfl, rfl, ?_, ?_⟩
  · intro o'
    by_cases same : o' = o
    · subst same
      simp only [Function.update_self, eq, Option.isSome_some]
    · simp only [Function.update_of_ne same]
  · intro o' sig
    rw [knows_update]
    by_cases same : o' = o
    · subst same
      rw [if_pos rfl, changes senders eq]
      simp
    · rw [if_neg same, keeps o' sig same]

theorem onSignal_walk {w : Objects} {sig : Nat} {f : List Connection → List Connection}
    (there : (w.signals sig).isSome) {C : Nat → Nat → Prop}
    (keeps : ∀ sig' o, sig' ≠ sig → (C sig' o ↔ w.Connected sig' o))
    (changes : ∀ cs, w.signals sig = some cs → ∀ o, C sig o ↔ o ∈ dests (f cs)) :
    ∃ w', w.onSignal sig f = some w' ∧ SignalsWalk w w' C := by
  obtain ⟨connections, eq⟩ := Option.isSome_iff_exists.mp there
  refine ⟨{ w with signals := Function.update w.signals sig (some (f connections)) },
    by rw [onSignal, eq]; rfl, rfl, ?_, ?_⟩
  · intro sig'
    by_cases same : sig' = sig
    · subst same
      simp only [Function.update_self, eq, Option.isSome_some]
    · simp only [Function.update_of_ne same]
  · intro sig' o
    rw [connected_update]
    by_cases same : sig' = sig
    · subst same
      rw [if_pos rfl, changes connections eq]
      simp
    · rw [if_neg same, keeps sig' o same]

theorem signalConnect_walk (sig : Nat) : ∀ {os : List Nat} {w : Objects},
    (∀ o ∈ os, (w.slots o).isSome) →
      ∃ w', signalConnect sig os w = some w' ∧
        SlotsWalk w w' fun o sig' => w.Knows o sig' ∨ sig' = sig ∧ o ∈ os := by
  intro os
  induction os with
  | nil => exact fun _ => ⟨_, rfl, rfl, fun _ => rfl, by simp⟩
  | cons o os ih =>
    intro w there
    obtain ⟨w₁, first, walk₁⟩ : ∃ w₁, w.onSlots o (·.insert sig) = some w₁ ∧
        SlotsWalk w w₁ fun o' sig' => w.Knows o' sig' ∨ sig' = sig ∧ o' = o := by
      apply onSlots_walk (there o List.mem_cons_self)
      · intro o' sig' other
        simp [other]
      · intro senders eq sig'
        rw [knows_iff eq, SortedSet.mem_insert]
        simp [or_comm]
    obtain ⟨w₂, rest, walk₂⟩ := ih fun o' mem => by
      rw [walk₁.present]
      exact there o' (List.mem_cons_of_mem _ mem)
    refine ⟨w₂, by rw [signalConnect, first]; exact rest, walk₂.signals.trans walk₁.signals,
      fun o' => (walk₂.present o').trans (walk₁.present o'), ?_⟩
    intro o' sig'
    rw [walk₂.knows, walk₁.knows, List.mem_cons]
    tauto

theorem signalDisconnect_walk (sig : Nat) : ∀ {os : List Nat} {w : Objects},
    (∀ o ∈ os, (w.slots o).isSome) →
      ∃ w', signalDisconnect sig os w = some w' ∧
        SlotsWalk w w' fun o sig' => w.Knows o sig' ∧ ¬(sig' = sig ∧ o ∈ os) := by
  intro os
  induction os with
  | nil => exact fun _ => ⟨_, rfl, rfl, fun _ => rfl, by simp⟩
  | cons o os ih =>
    intro w there
    obtain ⟨w₁, first, walk₁⟩ : ∃ w₁, w.onSlots o (·.erase sig) = some w₁ ∧
        SlotsWalk w w₁ fun o' sig' => w.Knows o' sig' ∧ ¬(sig' = sig ∧ o' = o) := by
      apply onSlots_walk (there o List.mem_cons_self)
      · intro o' sig' other
        simp [other]
      · intro senders eq sig'
        rw [knows_iff eq, SortedSet.mem_erase]
        simp [and_comm]
    obtain ⟨w₂, rest, walk₂⟩ := ih fun o' mem => by
      rw [walk₁.present]
      exact there o' (List.mem_cons_of_mem _ mem)
    refine ⟨w₂, by rw [signalDisconnect, first]; exact rest, walk₂.signals.trans walk₁.signals,
      fun o' => (walk₂.present o').trans (walk₁.present o'), ?_⟩
    intro o' sig'
    rw [walk₂.knows, walk₁.knows, List.mem_cons]
    tauto

theorem dests_filter (o o' : Nat) (cs : List Connection) :
    o' ∈ dests (cs.filter (·.dest ≠ o)) ↔ o' ∈ dests cs ∧ o' ≠ o := by
  simp only [dests, List.mem_map, List.mem_filter, decide_eq_true_eq]
  constructor
  · rintro ⟨c, ⟨mem, other⟩, rfl⟩
    exact ⟨⟨c, mem, rfl⟩, other⟩
  · rintro ⟨⟨c, mem, rfl⟩, other⟩
    exact ⟨c, ⟨mem, other⟩, rfl⟩

/-- Deleting the first connection to `o` takes one `o` out of the objects. -/
theorem dests_eraseP (o : Nat) (cs : List Connection) :
    dests (cs.eraseP (·.dest = o)) = (dests cs).erase o := by
  induction cs with
  | nil => rfl
  | cons c cs ih =>
    have head : dests (c :: cs) = c.dest :: dests cs := rfl
    rw [List.eraseP_cons, head, List.erase_cons]
    by_cases same : c.dest = o
    · simp [same]
    · simp only [same, decide_false, cond_false, beq_iff_eq, if_false]
      rw [← ih]
      rfl

theorem slotDisconnect_walk (o : Nat) : ∀ {sigs : List Nat} {w : Objects},
    (∀ sig ∈ sigs, (w.signals sig).isSome) →
      ∃ w', slotDisconnect o sigs w = some w' ∧
        SignalsWalk w w' fun sig o' => w.Connected sig o' ∧ ¬(o' = o ∧ sig ∈ sigs) := by
  intro sigs
  induction sigs with
  | nil => exact fun _ => ⟨_, rfl, rfl, fun _ => rfl, by simp⟩
  | cons sig sigs ih =>
    intro w there
    obtain ⟨w₁, first, walk₁⟩ : ∃ w₁,
        (w.onSignal sig fun cs => cs.filter (·.dest ≠ o)) = some w₁ ∧
        SignalsWalk w w₁ fun sig' o' => w.Connected sig' o' ∧ ¬(o' = o ∧ sig' = sig) := by
      apply onSignal_walk (there sig List.mem_cons_self)
      · intro sig' o' other
        simp [other]
      · intro cs eq o'
        rw [connected_iff eq, dests_filter]
        simp
    obtain ⟨w₂, rest, walk₂⟩ := ih fun sig' mem => by
      rw [walk₁.present]
      exact there sig' (List.mem_cons_of_mem _ mem)
    refine ⟨w₂, by rw [slotDisconnect, first]; exact rest, walk₂.slots.trans walk₁.slots,
      fun sig' => (walk₂.present sig').trans (walk₁.present sig'), ?_⟩
    intro sig' o'
    rw [walk₂.connected, walk₁.connected, List.mem_cons]
    tauto

theorem dests_duplicate (old new o : Nat) (cs : List Connection) :
    o ∈ dests (cs ++ (cs.filter (·.dest = old)).map fun c => { c with dest := new }) ↔
      o ∈ dests cs ∨ o = new ∧ old ∈ dests cs := by
  simp only [dests, List.map_append, List.map_map, List.mem_append]
  apply or_congr Iff.rfl
  simp only [List.mem_map, List.mem_filter, decide_eq_true_eq, Function.comp]
  constructor
  · rintro ⟨c, ⟨mem, rfl⟩, rfl⟩
    exact ⟨rfl, c, mem, rfl⟩
  · rintro ⟨rfl, c, mem, rfl⟩
    exact ⟨c, ⟨mem, rfl⟩, rfl⟩

theorem slotDuplicate_walk {old new : Nat} (apart : old ≠ new) :
    ∀ {sigs : List Nat} {w : Objects}, (∀ sig ∈ sigs, (w.signals sig).isSome) →
      ∃ w', slotDuplicate old new sigs w = some w' ∧
        SignalsWalk w w' fun sig o =>
          w.Connected sig o ∨ o = new ∧ sig ∈ sigs ∧ w.Connected sig old := by
  intro sigs
  induction sigs with
  | nil => exact fun _ => ⟨_, rfl, rfl, fun _ => rfl, by simp⟩
  | cons sig sigs ih =>
    intro w there
    obtain ⟨w₁, first, walk₁⟩ : ∃ w₁,
        (w.onSignal sig fun cs =>
          cs ++ (cs.filter (·.dest = old)).map fun c => { c with dest := new }) = some w₁ ∧
        SignalsWalk w w₁ fun sig' o =>
          w.Connected sig' o ∨ o = new ∧ sig' = sig ∧ w.Connected sig' old := by
      apply onSignal_walk (there sig List.mem_cons_self)
      · intro sig' o other
        simp [other]
      · intro cs eq o
        rw [connected_iff eq, connected_iff eq, dests_duplicate]
        simp
    obtain ⟨w₂, rest, walk₂⟩ := ih fun sig' mem => by
      rw [walk₁.present]
      exact there sig' (List.mem_cons_of_mem _ mem)
    refine ⟨w₂, by rw [slotDuplicate, first]; exact rest, walk₂.slots.trans walk₁.slots,
      fun sig' => (walk₂.present sig').trans (walk₁.present sig'), ?_⟩
    intro sig' o
    rw [walk₂.connected, walk₁.connected, walk₁.connected, List.mem_cons]
    tauto

/-! ## What each call does to the links -/

theorem connected_congr {w w' : Objects} (same : w'.signals = w.signals) {sig o : Nat} :
    w'.Connected sig o ↔ w.Connected sig o := by
  unfold Connected
  rw [same]

theorem knows_congr {w w' : Objects} (same : w'.slots = w.slots) {sig o : Nat} :
    w'.Knows o sig ↔ w.Knows o sig := by
  unfold Knows
  rw [same]

namespace Linked

variable {w : Objects} {sig o new : Nat} (linked : Linked w)
include linked

/-- The objects a signal is connected to are there. -/
theorem dests_present {connections : List Connection} (there : w.signals sig = some connections) :
    ∀ o ∈ dests connections, (w.slots o).isSome := by
  intro o mem
  exact ((linked sig o).mp ((connected_iff there).mpr mem)).isSome

/-- The senders of an object are there. -/
theorem senders_present {senders : SortedSet Nat} (there : w.slots o = some senders) :
    ∀ sig ∈ senders.toList, (w.signals sig).isSome := by
  intro sig mem
  exact ((linked sig o).mpr ((knows_iff there).mpr mem)).isSome

theorem newSignal (fresh : w.signals sig = none) :
    Linked { w with signals := Function.update w.signals sig (some []) } := by
  intro sig' o
  rw [connected_update]
  by_cases same : sig' = sig
  · subst same
    rw [if_pos rfl]
    apply iff_of_false
    · simp [dests]
    · exact fun knows => not_connected fresh ((linked sig' o).mpr knows)
  · rw [if_neg same]
    exact linked sig' o

theorem newSlots (fresh : w.slots o = none) :
    Linked { w with slots := Function.update w.slots o (some .empty) } := by
  intro sig o'
  rw [knows_update]
  by_cases same : o' = o
  · subst same
    rw [if_pos rfl]
    apply iff_of_false
    · exact fun connected => not_knows fresh ((linked sig o').mp connected)
    · simp
  · rw [if_neg same]
    exact linked sig o'

theorem connect {c : Connection} (signal : (w.signals sig).isSome) (dest : (w.slots c.dest).isSome) :
    ∃ w', w.connect sig c = some w' ∧ Linked w' := by
  obtain ⟨w₁, first, walk₁⟩ : ∃ w₁, w.onSignal sig (· ++ [c]) = some w₁ ∧
      SignalsWalk w w₁ fun sig' o => w.Connected sig' o ∨ sig' = sig ∧ o = c.dest := by
    apply onSignal_walk signal
    · intro sig' o other
      simp [other]
    · intro cs eq o
      rw [connected_iff eq]
      simp [dests]
  obtain ⟨w₂, second, walk₂⟩ := @signalConnect_walk sig [c.dest] w₁ (by
    rw [walk₁.slots]
    simpa using dest)
  refine ⟨w₂, by rw [Objects.connect, first]; exact second, ?_⟩
  intro sig' o
  rw [connected_congr walk₂.signals, walk₁.connected, walk₂.knows, knows_congr walk₁.slots,
    linked sig' o, List.mem_singleton]

theorem signalDisconnectAll (there : (w.signals sig).isSome) :
    ∃ w', w.signalDisconnectAll sig = some w' ∧ Linked w' ∧ ∀ o, ¬w'.Knows o sig := by
  obtain ⟨connections, eq⟩ := Option.isSome_iff_exists.mp there
  obtain ⟨w₁, first, walk₁⟩ := signalDisconnect_walk sig (linked.dests_present eq)
  obtain ⟨w₂, second, walk₂⟩ : ∃ w₂, (w₁.onSignal sig fun _ => []) = some w₂ ∧
      SignalsWalk w₁ w₂ fun sig' o => w₁.Connected sig' o ∧ sig' ≠ sig := by
    apply onSignal_walk
    · rw [walk₁.signals]
      exact there
    · intro sig' o other
      simp [other]
    · intro cs _ o
      simp [dests]
  have knows : ∀ o sig', w₂.Knows o sig' ↔ w.Knows o sig' ∧ sig' ≠ sig := by
    intro o sig'
    rw [knows_congr walk₂.slots, walk₁.knows]
    apply and_congr_right
    intro known
    apply not_congr
    constructor
    · exact And.left
    · rintro rfl
      exact ⟨rfl, (connected_iff eq).mp ((linked _ o).mpr known)⟩
  refine ⟨w₂, ?_, ?_, ?_⟩
  · rw [Objects.signalDisconnectAll, eq, Option.bind_some, first]
    exact second
  · intro sig' o
    rw [walk₂.connected, connected_congr walk₁.signals, knows, linked sig' o]
  · intro o known
    exact ((knows o sig).mp known).2 rfl

theorem slotsDisconnectAll (there : (w.slots o).isSome) :
    ∃ w', w.slotsDisconnectAll o = some w' ∧ Linked w' ∧ ∀ sig, ¬w'.Connected sig o := by
  obtain ⟨senders, eq⟩ := Option.isSome_iff_exists.mp there
  obtain ⟨w₁, first, walk₁⟩ := slotDisconnect_walk o (linked.senders_present eq)
  obtain ⟨w₂, second, walk₂⟩ : ∃ w₂, (w₁.onSlots o fun _ => .empty) = some w₂ ∧
      SlotsWalk w₁ w₂ fun o' sig => w₁.Knows o' sig ∧ o' ≠ o := by
    apply onSlots_walk
    · rw [walk₁.slots]
      exact there
    · intro o' sig other
      simp [other]
    · intro _ _ sig
      simp
  have connected : ∀ sig o', w₂.Connected sig o' ↔ w.Connected sig o' ∧ o' ≠ o := by
    intro sig o'
    rw [connected_congr walk₂.signals, walk₁.connected]
    apply and_congr_right
    intro connected
    apply not_congr
    constructor
    · exact And.left
    · rintro rfl
      exact ⟨rfl, (knows_iff eq).mp ((linked sig _).mp connected)⟩
  refine ⟨w₂, ?_, ?_, ?_⟩
  · rw [Objects.slotsDisconnectAll, eq, Option.bind_some, first]
    exact second
  · intro sig o'
    rw [connected, walk₂.knows, knows_congr walk₁.slots, linked sig o']
  · intro sig linked_o
    exact ((connected sig o).mp linked_o).2 rfl

theorem copySignal (there : (w.signals sig).isSome) (fresh : w.signals new = none) :
    ∃ w', w.copySignal sig new = some w' ∧ Linked w' := by
  obtain ⟨connections, eq⟩ := Option.isSome_iff_exists.mp there
  obtain ⟨w₁, first, walk₁⟩ := signalConnect_walk new (linked.dests_present eq)
  refine ⟨{ w₁ with signals := Function.update w₁.signals new (some connections) }, ?_, ?_⟩
  · rw [Objects.copySignal, eq, Option.bind_some, first]
    rfl
  · intro sig' o
    have known : Knows { w₁ with signals := Function.update w₁.signals new (some connections) } o
        sig' ↔ w.Knows o sig' ∨ sig' = new ∧ o ∈ dests connections := walk₁.knows o sig'
    rw [connected_update, known]
    by_cases same : sig' = new
    · subst same
      have before : ¬w.Knows o sig' := fun knows => not_connected fresh ((linked sig' o).mpr knows)
      simp [before]
    · rw [if_neg same, connected_congr walk₁.signals, linked sig' o]
      simp [same]

theorem copySlots (there : (w.slots o).isSome) (fresh : w.slots new = none) :
    ∃ w', w.copySlots o new = some w' ∧ Linked w' := by
  obtain ⟨senders, eq⟩ := Option.isSome_iff_exists.mp there
  have apart : o ≠ new := by
    rintro rfl
    rw [eq] at fresh
    contradiction
  obtain ⟨w₁, first, walk₁⟩ := slotDuplicate_walk apart (linked.senders_present eq)
  refine ⟨{ w₁ with slots := Function.update w₁.slots new (some senders) }, ?_, ?_⟩
  · rw [Objects.copySlots, eq, Option.bind_some, first]
    rfl
  · intro sig o'
    have connected : Connected { w₁ with slots := Function.update w₁.slots new (some senders) } sig
        o' ↔ w.Connected sig o' ∨ o' = new ∧ sig ∈ senders ∧ w.Connected sig o :=
      walk₁.connected sig o'
    have both : sig ∈ senders ↔ w.Connected sig o := by rw [linked sig o, knows_iff eq]
    rw [knows_update, connected, both]
    by_cases same : o' = new
    · subst same
      have before : ¬w.Connected sig o' := fun c => not_knows fresh ((linked sig o').mp c)
      simp [before, both]
    · rw [if_neg same, knows_congr walk₁.slots, linked sig o']
      simp [same]

/-- A `disconnect` keeps the links iff it finds one connection to the object at most. -/
theorem disconnect {connections : List Connection} (eq : w.signals sig = some connections) :
    ∃ w', w.disconnect sig o = some w' ∧ (Linked w' ↔ (dests connections).count o ≤ 1) := by
  by_cases mem : o ∈ dests connections
  swap
  · refine ⟨w, ?_, iff_of_true linked ?_⟩
    · rw [Objects.disconnect, eq, Option.bind_some, if_neg mem]
    · rw [List.count_eq_zero_of_not_mem mem]
      exact Nat.zero_le 1
  obtain ⟨w₁, first, walk₁⟩ : ∃ w₁,
      (w.onSignal sig fun cs => cs.eraseP (·.dest = o)) = some w₁ ∧
      SignalsWalk w w₁ fun sig' o' =>
        if sig' = sig then o' ∈ (dests connections).erase o else w.Connected sig' o' := by
    apply onSignal_walk
    · simp [eq]
    · intro sig' o' other
      rw [if_neg other]
    · intro cs eq' o'
      obtain rfl : connections = cs := Option.some.inj (eq.symm.trans eq')
      rw [if_pos rfl, dests_eraseP]
  obtain ⟨w₂, second, walk₂⟩ := @signalDisconnect_walk sig [o] w₁ (by
    rw [walk₁.slots]
    simpa using linked.dests_present eq o mem)
  refine ⟨w₂, ?_, ?_⟩
  · rw [Objects.disconnect, eq, Option.bind_some, if_pos mem, first]
    exact second
  have left : (dests connections).count o ≤ 1 ↔ o ∉ (dests connections).erase o := by
    rw [← List.count_eq_zero, List.count_erase_self]
    omega
  have both : ∀ sig' o', (w₂.Connected sig' o' ↔ w₂.Knows o' sig') ↔
      ((if sig' = sig then o' ∈ (dests connections).erase o else w.Connected sig' o') ↔
        w.Connected sig' o' ∧ ¬(sig' = sig ∧ o' = o)) := by
    intro sig' o'
    rw [connected_congr walk₂.signals, walk₁.connected, walk₂.knows, knows_congr walk₁.slots,
      linked sig' o', List.mem_singleton]
  rw [left]
  constructor
  · intro linked' stays
    have here := (both sig o).mp (linked' sig o)
    rw [if_pos rfl] at here
    exact (here.mp stays).2 ⟨rfl, rfl⟩
  · intro gone sig' o'
    apply (both sig' o').mpr
    by_cases same : sig' = sig
    · subst same
      rw [if_pos rfl, connected_iff eq]
      by_cases same_o : o' = o
      · subst same_o
        simp [gone]
      · rw [List.mem_erase_of_ne same_o]
        simp [same_o]
    · rw [if_neg same]
      simp [same]

theorem deleteSignal (there : (w.signals sig).isSome) :
    ∃ w', SlotOp.apply w (.deleteSignal sig) = some w' ∧ Linked w' := by
  obtain ⟨w₁, done, linked₁, forgotten⟩ := linked.signalDisconnectAll there
  refine ⟨{ w₁ with signals := Function.update w₁.signals sig none }, ?_, ?_⟩
  · rw [SlotOp.apply, done]
    rfl
  · intro sig' o
    rw [connected_update]
    by_cases same : sig' = sig
    · subst same
      rw [if_pos rfl]
      exact iff_of_false (by simp) (forgotten o)
    · rw [if_neg same]
      exact linked₁ sig' o

theorem deleteSlots (there : (w.slots o).isSome) :
    ∃ w', SlotOp.apply w (.deleteSlots o) = some w' ∧ Linked w' := by
  obtain ⟨w₁, done, linked₁, forgotten⟩ := linked.slotsDisconnectAll there
  refine ⟨{ w₁ with slots := Function.update w₁.slots o none }, ?_, ?_⟩
  · rw [SlotOp.apply, done]
    rfl
  · intro sig o'
    rw [knows_update]
    by_cases same : o' = o
    · subst same
      rw [if_pos rfl]
      exact iff_of_false (forgotten sig) (by simp)
    · rw [if_neg same]
      exact linked₁ sig o'

/-- Emission reaches objects that are there. -/
theorem emit (there : (w.signals sig).isSome) : w.emit sig = some w := by
  obtain ⟨connections, eq⟩ := Option.isSome_iff_exists.mp there
  rw [Objects.emit, eq, Option.bind_some]
  apply if_pos
  intro c mem
  exact linked.dests_present eq c.dest (List.mem_map_of_mem mem)

end Linked

end Objects

/-- A `disconnect` finds one connection to the object at most. -/
def SlotOp.Single (w : Objects) : SlotOp → Prop
  | .disconnect sig o => ∀ cs ∈ w.signals sig, (Objects.dests cs).count o ≤ 1
  | _ => True

instance (w : Objects) (op : SlotOp) : Decidable (op.Single w) := by
  cases op <;> unfold SlotOp.Single <;> infer_instance

namespace SlotProgram
open Objects

/-- A call that its caller may make goes through no stale pointer, and keeps the links iff it is
no `disconnect` of a double connection. -/
theorem linked_apply {w : Objects} {op : SlotOp} (linked : Linked w) (permitted : op.Permitted w) :
    ∃ w', op.apply w = some w' ∧ (Linked w' ↔ op.Single w) := by
  have kept : ∀ {r : Option Objects}, (∃ w', r = some w' ∧ Linked w') →
      ∃ w', r = some w' ∧ (Linked w' ↔ True) := by
    rintro r ⟨w', done, linked'⟩
    exact ⟨w', done, iff_of_true linked' trivial⟩
  cases op with
  | newSignal sig => exact kept ⟨_, rfl, linked.newSignal permitted⟩
  | newSlots o => exact kept ⟨_, rfl, linked.newSlots permitted⟩
  | connect sig c => exact kept (linked.connect permitted.1 permitted.2)
  | disconnect sig o =>
    obtain ⟨connections, eq⟩ := Option.isSome_iff_exists.mp permitted.1
    obtain ⟨w', done, exactly⟩ := linked.disconnect (o := o) eq
    refine ⟨w', done, exactly.trans ?_⟩
    simp [SlotOp.Single, eq]
  | signalDisconnectAll sig =>
    obtain ⟨w', done, linked', -⟩ := linked.signalDisconnectAll permitted
    exact kept ⟨w', done, linked'⟩
  | slotsDisconnectAll o =>
    obtain ⟨w', done, linked', -⟩ := linked.slotsDisconnectAll permitted
    exact kept ⟨w', done, linked'⟩
  | copySignal sig new => exact kept (linked.copySignal permitted.1 permitted.2)
  | copySlots o new => exact kept (linked.copySlots permitted.1 permitted.2)
  | deleteSignal sig => exact kept (linked.deleteSignal permitted)
  | deleteSlots o => exact kept (linked.deleteSlots permitted)
  | emit sig => exact kept ⟨w, linked.emit permitted, linked⟩

/-- No call went through a stale pointer, and both sides of every link are there. -/
def Sound (p : SlotProgram) : Prop := p.faulted = false ∧ Linked p.objects

theorem sound_step {p p' : SlotProgram} {op : SlotOp} (sound : p.Sound)
    (moved : p.step op = some p') : p'.Sound ↔ op.Single p.objects := by
  unfold step at moved
  obtain ⟨⟨running, permitted⟩, moved⟩ := Option.ite_none_right_eq_some.mp moved
  obtain ⟨w, done, exactly⟩ := linked_apply sound.2 permitted
  rw [done] at moved
  obtain rfl := Option.some.inj moved
  rw [← exactly]
  exact and_iff_right running

/-- In every program over signals and their objects, no call goes through a stale pointer and
both sides of every link are there, iff no `disconnect` finds two connections to the same
object. -/
theorem always_sound_iff (ops : List SlotOp) :
    Always step Sound start ops ↔ EachStep step (fun p op _ => op.Single p.objects) start ops := by
  apply Always.iff_eachStep
  · intro p op p' sound single moved
    exact (sound_step sound moved).mpr single
  · intro p op p' sound moved sound'
    exact (sound_step sound moved).mp sound'
  · refine ⟨rfl, fun sig o => iff_of_false ?_ ?_⟩
    · exact not_connected rfl
    · exact not_knows rfl

/-- The object connects twice, is disconnected once and destroyed: the signal calls it. -/
example :
    (exec step start [.newSignal 1, .newSlots 2, .connect 1 ⟨2, 0⟩, .connect 1 ⟨2, 0⟩,
      .disconnect 1 2, .deleteSlots 2, .emit 1]).map SlotProgram.faulted = some true := by
  decide

end SlotProgram

end NewFramework.Tstlesrv
