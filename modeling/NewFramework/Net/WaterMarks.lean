import NewFramework.Net.ConnectionLoop

/-!
# The two water marks

The callbacks of `muduo/net/TcpConnection.cpp` for a producer that stops when
`highWaterMarkCallback_` is called and goes on when `writeCompleteCallback_` is: it is told to stop
when `outputBuffer_` comes up to the mark, and as long as it stands there something waits to be
written, after which it is told to go on.
-/

namespace NewFramework.Net
open NewFramework.Lib

/-- The callbacks queued for the producer, in order. -/
def signals (notes : List Note) : List Functor :=
  notes.filterMap fun
    | .queued .writeCompleteCallback => some .writeCompleteCallback
    | .queued (.highWaterMarkCallback size) => some (.highWaterMarkCallback size)
    | _ => none

@[simp] theorem signals_append (xs ys : List Note) :
    signals (xs ++ ys) = signals xs ++ signals ys :=
  List.filterMap_append ..

namespace TcpConnection

/-- The last callback told the producer to stop. -/
def Stopped (c : TcpConnection) : Prop :=
  ∃ size, (signals c.notes).getLast? = some (.highWaterMarkCallback size)

/-- What the two callbacks are for. -/
structure Paced (c : TcpConnection) : Prop where
  told : c.highWaterMark ≤ c.outputBuffer.readableBytes → c.Stopped
  waits : c.Stopped → 0 < c.outputBuffer.readableBytes

/-- The callback for the high water mark is queued when `outputBuffer_` comes up to the mark, with
what is in it then, and at no other time. -/
def Crosses (c c' : TcpConnection) : Prop :=
  ∃ new, signals c'.notes = signals c.notes ++ new ∧
    new.filter (· ≠ .writeCompleteCallback) =
      if c.outputBuffer.readableBytes < c.highWaterMark ∧
          c.highWaterMark ≤ c'.outputBuffer.readableBytes then
        [.highWaterMarkCallback c'.outputBuffer.readableBytes]
      else []

/-- What a function does to the output and tells of it. -/
inductive Paces (c c' : TcpConnection) : Prop
  | same (told : signals c'.notes = signals c.notes)
      (output : c'.outputBuffer.readableBytes = c.outputBuffer.readableBytes)
  | grew (more : c.outputBuffer.readableBytes < c'.outputBuffer.readableBytes)
      (told : signals c'.notes = signals c.notes ++
        if c.highWaterMark ≤ c'.outputBuffer.readableBytes ∧
            c.outputBuffer.readableBytes < c.highWaterMark then
          [.highWaterMarkCallback c'.outputBuffer.readableBytes]
        else [])
  | shrank (less : c'.outputBuffer.readableBytes < c.outputBuffer.readableBytes)
      (left : 0 < c'.outputBuffer.readableBytes)
      (told : signals c'.notes = signals c.notes)
  | completed (empty : c'.outputBuffer.readableBytes = 0)
      (told : signals c'.notes = signals c.notes ++ [.writeCompleteCallback])

variable {c c' : TcpConnection}

theorem Paces.crosses (paces : Paces c c') : Crosses c c' := by
  cases paces with
  | same told output =>
    refine ⟨[], by rw [told, List.append_nil], ?_⟩
    rw [output, if_neg (by omega)]
    rfl
  | grew more told =>
    refine ⟨_, told, ?_⟩
    split
    · next high => rw [if_pos high.symm]; rfl
    · next low => rw [if_neg fun high => low high.symm]; rfl
  | shrank less left told =>
    refine ⟨[], by rw [told, List.append_nil], ?_⟩
    rw [if_neg (by omega)]
    rfl
  | completed empty told =>
    refine ⟨_, told, ?_⟩
    rw [empty, if_neg (by omega)]
    rfl

theorem stopped_congr (told : signals c'.notes = signals c.notes) : c'.Stopped ↔ c.Stopped := by
  unfold Stopped
  rw [told]

theorem Paces.paced (paces : Paces c c') (mark : c'.highWaterMark = c.highWaterMark)
    (pos : 0 < c.highWaterMark) (paced : c.Paced) : c'.Paced := by
  obtain ⟨told, waits⟩ := paced
  cases paces with
  | same same output =>
    have stopped := stopped_congr same
    rw [← stopped] at waits
    exact ⟨fun high => stopped.mpr (told (by omega)), fun stop => by have := waits stop; omega⟩
  | grew more new =>
    refine ⟨?_, fun _ => by omega⟩
    intro high
    rw [mark] at high
    unfold Stopped
    rw [new]
    by_cases low : c.outputBuffer.readableBytes < c.highWaterMark
    · rw [if_pos ⟨high, low⟩]
      exact ⟨_, List.getLast?_concat⟩
    · rw [if_neg fun both => low both.2, List.append_nil]
      exact told (Nat.le_of_not_lt low)
  | shrank less left same =>
    have stopped := stopped_congr same
    exact ⟨fun high => stopped.mpr (told (by omega)), fun _ => left⟩
  | completed empty new =>
    have goes : ¬ c'.Stopped := by
      rintro ⟨size, last⟩
      rw [new, List.getLast?_concat] at last
      cases Option.some.inj last
    exact ⟨fun high => by omega, fun stop => absurd stop goes⟩

/-! ## The functions that write -/

theorem appendOutput_paces (high : c.highWaterMarkCallback = true) {data : List UInt8}
    (some_left : 0 < data.length) : Paces c (c.appendOutput data) := by
  have output : (c.appendOutput data).outputBuffer = c.outputBuffer.append data := by
    unfold appendOutput mapChannel queueInLoop
    dsimp only
    split <;> split <;> rfl
  have told : (c.appendOutput data).notes = c.notes ++
      if c.highWaterMark ≤ c.outputBuffer.readableBytes + data.length ∧
          c.outputBuffer.readableBytes < c.highWaterMark then
        [.queued (.highWaterMarkCallback (c.outputBuffer.readableBytes + data.length))]
      else [] := by
    unfold appendOutput mapChannel queueInLoop
    dsimp only
    rw [high]
    split <;> split <;> simp_all
  have length : (c.appendOutput data).outputBuffer.readableBytes =
      c.outputBuffer.readableBytes + data.length := by
    rw [output, Buffer.readableBytes_append]
  refine .grew (by omega) ?_
  rw [told, length, signals_append]
  split <;> rfl

/-- What tells nothing before. -/
theorem Paces.after {before : TcpConnection} (paces : Paces before c')
    (told : signals before.notes = signals c.notes) (output : before.outputBuffer = c.outputBuffer)
    (mark : before.highWaterMark = c.highWaterMark) : Paces c c' := by
  cases paces with
  | same told' output' => exact .same (told'.trans told) (by rw [output', output])
  | grew more told' =>
    rw [output] at more
    rw [told, output, mark] at told'
    exact .grew more told'
  | shrank less left told' => exact .shrank (output ▸ less) left (told'.trans told)
  | completed empty told' => exact .completed empty (told ▸ told')

/-- A direct write that leaves something tells nothing. -/
theorem writeDirectly_quiet {k : KernelWrite} {data : List UInt8}
    (left : 0 < data.length - c.nwrote k data) :
    signals (c.writeDirectly k data).notes = signals c.notes ∧
      (c.writeDirectly k data).outputBuffer = c.outputBuffer ∧
      (c.writeDirectly k data).highWaterMark = c.highWaterMark ∧
      (c.writeDirectly k data).highWaterMarkCallback = c.highWaterMarkCallback := by
  unfold writeDirectly
  split
  · have incomplete : ¬(0 ≤ k.ret data.length ∧ data.length - c.nwrote k data = 0 ∧
        c.writeCompleteCallback = true) := fun complete => by omega
    dsimp only
    rw [if_neg incomplete]
    exact ⟨(signals_append ..).trans (List.append_nil _), rfl, rfl, rfl⟩
  · exact ⟨rfl, rfl, rfl, rfl⟩

theorem writeDirectly_paces (c : TcpConnection) (k : KernelWrite) (data : List UInt8) :
    Paces c (c.writeDirectly k data) := by
  unfold writeDirectly
  split
  · next direct =>
    have empty : c.outputBuffer.readableBytes = 0 := by
      simp only [TcpConnection.direct, Bool.and_eq_true, beq_iff_eq] at direct
      exact direct.2
    dsimp only
    split
    · refine .completed empty ?_
      simp only [queueInLoop, note, signals_append, List.append_assoc]
      rfl
    · exact .same ((signals_append ..).trans (List.append_nil _)) rfl
  · exact .same rfl rfl

theorem sendInLoop_paces (high : c.highWaterMarkCallback = true) (k : KernelWrite) (call : Nat)
    (data : List UInt8) : Paces c (c.sendInLoop k call data) := by
  unfold sendInLoop
  split
  · exact .same rfl rfl
  have given : signals (c.note (.given call data)).notes = signals c.notes :=
    (signals_append ..).trans (List.append_nil _)
  dsimp only
  split
  · next more =>
    obtain ⟨told, output, mark, set⟩ :=
      @writeDirectly_quiet (c.note (.given call data)) k data more.2
    have some_left : 0 < (data.drop (c.nwrote k data)).length := by
      rw [List.length_drop]
      exact more.2
    exact (appendOutput_paces (set.trans high) some_left).after (told.trans given) output mark
  · exact ((c.note (.given call data)).writeDirectly_paces k data).after given rfl rfl

theorem handleWrite_paces (complete : c.writeCompleteCallback = true) (k : KernelWrite) :
    Paces c (c.handleWrite k) := by
  cases writing : c.channel.isWriting with
  | false =>
    rw [handleWrite_idle writing]
    exact .same rfl rfl
  | true =>
    rw [handleWrite_writing writing]
    by_cases drained : c.drains k
    · refine .completed ?_ ?_
      · dsimp only
        rw [if_pos drained.1, Buffer.readableBytes_retrieve]
        exact Nat.sub_eq_zero_of_le drained.2
      · dsimp only
        rw [if_pos ⟨drained, complete⟩, signals_append]
        split <;> rfl
    · have told : signals (c.notes ++ .wrote k c.outputBuffer.readable :: ([] ++ [])) =
          signals c.notes := (signals_append ..).trans (List.append_nil _)
      by_cases some_room : 0 < k.accepted c.outputBuffer.readableBytes
      · have left : ¬c.outputBuffer.readableBytes ≤ k.accepted c.outputBuffer.readableBytes :=
          fun le => drained ⟨some_room, le⟩
        refine .shrank ?_ ?_ ?_
        · dsimp only
          rw [if_pos some_room, Buffer.readableBytes_retrieve]
          omega
        · dsimp only
          rw [if_pos some_room, Buffer.readableBytes_retrieve]
          omega
        · dsimp only
          rw [if_neg fun both => drained both.1, if_neg fun both => drained both.1]
          exact told
      · refine .same ?_ ?_
        · dsimp only
          rw [if_neg fun both => drained both.1, if_neg fun both => drained both.1]
          exact told
        · dsimp only
          rw [if_neg some_room]

/-! ## The other functions -/

/-- What a step does for the producer. -/
def Keeps (c c' : TcpConnection) : Prop :=
  Paces c c' ∧ c'.highWaterMark = c.highWaterMark ∧
    c'.writeCompleteCallback = c.writeCompleteCallback ∧
    c'.highWaterMarkCallback = c.highWaterMarkCallback

/-- A function that notes nothing for the producer and leaves the output alone. -/
theorem Keeps.quiet {new : List Note} (noted : c'.notes = c.notes ++ new)
    (silent : signals new = []) (output : c'.outputBuffer = c.outputBuffer)
    (mark : c'.highWaterMark = c.highWaterMark)
    (complete : c'.writeCompleteCallback = c.writeCompleteCallback)
    (high : c'.highWaterMarkCallback = c.highWaterMarkCallback) : Keeps c c' :=
  ⟨.same (by rw [noted, signals_append, silent, List.append_nil]) (by rw [output]), mark, complete,
    high⟩

theorem Keeps.refl (c : TcpConnection) : Keeps c c := ⟨.same rfl rfl, rfl, rfl, rfl⟩

theorem Keeps.sent (high : c.highWaterMarkCallback = true) (k : KernelWrite) (call : Nat)
    (data : List UInt8) : Keeps c (c.sendInLoop k call data) := by
  refine ⟨sendInLoop_paces high k call data, ?_⟩
  by_cases closed : c.state = .kDisconnected
  · rw [sendInLoop_disconnected closed]
    exact ⟨rfl, rfl, rfl⟩
  · have same := (sendInLoop_sent closed k call data).same
    exact ⟨(congrArg TcpConnection.highWaterMark same :),
      (congrArg TcpConnection.writeCompleteCallback same :),
      (congrArg TcpConnection.highWaterMarkCallback same :)⟩

theorem Keeps.wrote (complete : c.writeCompleteCallback = true) (k : KernelWrite) :
    Keeps c (c.handleWrite k) := by
  refine ⟨handleWrite_paces complete k, ?_⟩
  cases writing : c.channel.isWriting with
  | false =>
    rw [handleWrite_idle writing]
    exact ⟨rfl, rfl, rfl⟩
  | true =>
    rw [handleWrite_writing writing]
    exact ⟨rfl, rfl, rfl⟩

theorem Keeps.closed (c : TcpConnection) : Keeps c c.handleClose :=
  @Keeps.quiet c c.handleClose [.handleClose c.state] rfl rfl rfl rfl rfl rfl

/-- A change of nothing that counts. -/
theorem Keeps.same (notes : c'.notes = c.notes) (output : c'.outputBuffer = c.outputBuffer)
    (mark : c'.highWaterMark = c.highWaterMark)
    (complete : c'.writeCompleteCallback = c.writeCompleteCallback)
    (high : c'.highWaterMarkCallback = c.highWaterMarkCallback) : Keeps c c' :=
  .quiet (by rw [notes, List.append_nil]) rfl output mark complete high

/-- A function that is called behind a change of nothing that counts. -/
theorem Keeps.after {before : TcpConnection} (keeps : Keeps before c')
    (notes : before.notes = c.notes) (output : before.outputBuffer = c.outputBuffer)
    (mark : before.highWaterMark = c.highWaterMark)
    (complete : before.writeCompleteCallback = c.writeCompleteCallback)
    (high : before.highWaterMarkCallback = c.highWaterMarkCallback) : Keeps c c' := by
  obtain ⟨paces, mark', complete', high'⟩ := keeps
  exact ⟨paces.after (congrArg signals notes) output mark, mark'.trans mark,
    complete'.trans complete, high'.trans high⟩

theorem Keeps.queued (f : Functor) (c : TcpConnection)
    (other : signals [.queued f] = []) : Keeps c (c.queueInLoop f) :=
  .quiet rfl other rfl rfl rfl rfl

theorem Keeps.shut (c : TcpConnection) : Keeps c c.shutdownInLoop := by
  unfold shutdownInLoop
  split
  · exact .refl c
  · exact @Keeps.quiet c _ [.shutdownWrite c.state c.outputBuffer.readable] rfl rfl rfl rfl rfl rfl

theorem Keeps.called (high : c.highWaterMarkCallback = true) (k : KernelWrite) (f : Functor) :
    Keeps c (c.callFunctor k f) := by
  cases f with
  | sendInLoop call message => exact .sent high k call message
  | shutdownInLoop => exact .shut c
  | forceCloseInLoop =>
    change Keeps c c.forceCloseInLoop
    unfold forceCloseInLoop
    split
    · exact .closed c
    · exact .refl c
  | startReadInLoop =>
    change Keeps c c.startReadInLoop
    unfold startReadInLoop
    split
    · exact .same rfl rfl rfl rfl rfl
    · exact .refl c
  | stopReadInLoop =>
    change Keeps c c.stopReadInLoop
    unfold stopReadInLoop
    split
    · exact .same rfl rfl rfl rfl rfl
    · exact .refl c
  | connectEstablished => exact .same rfl rfl rfl rfl rfl
  | connectDestroyed =>
    change Keeps c c.connectDestroyed
    unfold connectDestroyed
    split
    · exact .same rfl rfl rfl rfl rfl
    · exact @Keeps.quiet c _ [.remove c.state c.channel.events] rfl rfl rfl rfl rfl rfl
  | writeCompleteCallback => exact .same rfl rfl rfl rfl rfl
  | highWaterMarkCallback size => exact .same rfl rfl rfl rfl rfl

theorem Keeps.wentOn (complete : c.writeCompleteCallback = true) (read : KernelRecv)
    (k : KernelWrite) : Keeps c (c.goOn read k) := by
  unfold goOn
  split
  · exact .refl c
  · next callback rest _ =>
    cases callback with
    | close => exact (Keeps.closed _).after rfl rfl rfl rfl rfl
    | error => exact .same rfl rfl rfl rfl rfl
    | read =>
      simp only [channelCallback, handleRead]
      split
      · exact (Keeps.closed _).after rfl rfl rfl rfl rfl
      · exact .same rfl rfl rfl rfl rfl
      · exact .same rfl rfl rfl rfl rfl
    | write =>
      have written := @Keeps.wrote { c with tasks := rest } complete k
      exact written.after rfl rfl rfl rfl rfl
  · exact .same rfl rfl rfl rfl rfl
  · exact .quiet rfl rfl rfl rfl rfl rfl
  · exact .quiet rfl rfl rfl rfl rfl rfl

end TcpConnection

namespace ConnectionLoop

open TcpConnection (Crosses Keeps Paced)

variable {l l' : ConnectionLoop} {a : Act}

theorem Move.keeps (move : Move l a l') (complete : l.conn.writeCompleteCallback = true)
    (high : l.conn.highWaterMarkCallback = true) : Keeps l.conn l'.conn := by
  cases move with
  | ignored => exact .refl _
  | asked known asks =>
    cases asks with
    | shutdown | forceClose =>
      exact (Keeps.queued _ _ rfl).after rfl rfl rfl rfl rfl
    | _ => exact .queued _ _ rfl
  | @ran k call f c known asks =>
    cases asks with
    | send call message => exact .sent high k call message
    | shutdown => exact (Keeps.shut (l.conn.setState .kDisconnecting)).after rfl rfl rfl rfl rfl
    | forceClose =>
      have called := @Keeps.called (l.conn.setState .kDisconnecting) high k .forceCloseInLoop
      exact called.after rfl rfl rfl rfl rfl
    | startRead => exact Keeps.called high k .startReadInLoop
    | stopRead => exact Keeps.called high k .stopReadInLoop
  | idle => exact .refl _
  | ready => exact .same rfl rfl rfl rfl rfl
  | handled => exact .same rfl rfl rfl rfl rfl
  | wentOn => exact .wentOn complete _ _
  | swapped => exact .same rfl rfl rfl rfl rfl
  | @called k f rest =>
    have called := @Keeps.called { l.conn with functors := rest } high k f
    exact called.after rfl rfl rfl rfl rfl
  | released => exact .queued _ _ rfl
  | destroyed => exact .called high ⟨none, .eagain⟩ .connectDestroyed

/-- What is kept with both callbacks set. -/
structure Marked (highWaterMark : Nat) (l : ConnectionLoop) : Prop where
  mark : l.conn.highWaterMark = highWaterMark
  complete : l.conn.writeCompleteCallback = true
  high : l.conn.highWaterMarkCallback = true
  paced : 0 < highWaterMark → l.conn.Paced

theorem Marked.step {highWaterMark : Nat} (marked : Marked highWaterMark l) (move : Move l a l') :
    Marked highWaterMark l' ∧ Crosses l.conn l'.conn := by
  obtain ⟨paces, mark, complete, high⟩ := move.keeps marked.complete marked.high
  refine ⟨⟨mark.trans marked.mark, complete.trans marked.complete, high.trans marked.high, ?_⟩,
    paces.crosses⟩
  intro pos
  exact paces.paced mark (marked.mark.symm ▸ pos) (marked.paced pos)

end ConnectionLoop

end NewFramework.Net
