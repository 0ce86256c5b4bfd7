import NewFramework.Lib.Run
import NewFramework.Lib.SwapPop
import NewFramework.Net.Poller
import Mathlib.Data.List.Nodup
import Mathlib.Logic.Function.Basic

/-!
# `PollPoller` and its array

In `muduo/net/poller/PollPoller.cc`, `pollfds_` is the array that `poll(2)` reads, `channels_` the
map from descriptors to channels, and `index_` of a channel its position in the array.  An entry
whose mask is none is kept with its descriptor stored as `-fd - 1`, so that the kernel ignores it;
`removeChannel` swaps the entry with the last one, whose channel it finds by decoding that
descriptor.
-/

namespace NewFramework.Net

open NewFramework.Lib

/-- `struct pollfd`, with its two `short`s. -/
structure PollFd where
  fd : Int
  events : BitVec 16
  revents : BitVec 16
  deriving DecidableEq, Repr

/-- A `PollPoller` with its channels `ι`, and the `activeChannels_` that the loop clears before
each `poll` and hands to it.  The array stays far below 2^31 entries. -/
structure PollPoller (ι : Type) where
  channel : ι → Polled Int
  channels : Int → Option ι
  pollfds : List PollFd
  active : List ι

namespace PollPoller

variable {ι : Type}

/-- The constructor: `index_` of a new channel is -1. -/
def new : PollPoller ι := ⟨fun _ => ⟨0, 0, -1⟩, fun _ => none, [], []⟩

/-- What `poll(2)` is called on, and what it answers: `revents` for each entry, or an error. -/
abbrev Answer := Option (List (BitVec 16))

inductive Act (ι : Type) where
  | call (i : ι) (op : ChannelOp)
  | poll (answer : Answer)
  deriving DecidableEq

section Source

variable [DecidableEq ι]

def setEvents (s : PollPoller ι) (i : ι) (events : Mask) : PollPoller ι :=
  { s with channel := Function.update s.channel i { s.channel i with events := events } }

def setIndex (s : PollPoller ι) (i : ι) (index : Int) : PollPoller ι :=
  { s with channel := Function.update s.channel i { s.channel i with index := index } }

variable (fd : ι → Nat)

/-- `PollPoller::updateChannel`; `none` where an assert fails. -/
def updateChannel (s : PollPoller ι) (i : ι) : Option (PollPoller ι) :=
  let c := s.channel i
  if c.index < 0 then
    -- a new one, add to pollfds_
    if s.channels (fd i) = none then
      some (setIndex
        { s with
          pollfds := s.pollfds ++ [⟨fd i, c.events.setWidth 16, 0⟩]
          channels := Function.update s.channels (fd i) (some i) } i s.pollfds.length)
    else none
  else if s.channels (fd i) = some i then
    -- update existing one
    match s.pollfds[c.index.toNat]? with
    | none => none
    | some pfd =>
      if pfd.fd = fd i ∨ pfd.fd = -fd i - 1 then
        some { s with
          pollfds := s.pollfds.set c.index.toNat
            ⟨if c.events = kNoneEvent then -fd i - 1 else fd i, c.events.setWidth 16, 0⟩ }
      else none
  else none

/-- `PollPoller::removeChannel`.  The index of the removed channel stays. -/
def removeChannel (s : PollPoller ι) (i : ι) : Option (PollPoller ι) :=
  let c := s.channel i
  if s.channels (fd i) = some i ∧ c.events = kNoneEvent ∧ 0 ≤ c.index then
    match s.pollfds[c.index.toNat]?, s.pollfds.getLast? with
    | some pfd, some back =>
      if pfd.fd = -fd i - 1 ∧ pfd.events.signExtend 32 = c.events then
        let erased := Function.update s.channels (fd i) none
        if c.index = s.pollfds.length - 1 then
          some { s with channels := erased, pollfds := s.pollfds.dropLast }
        else
          let channelAtEnd := if back.fd < 0 then -back.fd - 1 else back.fd
          match erased channelAtEnd with
          | some j =>
            some (setIndex
              { s with channels := erased, pollfds := swapPop s.pollfds c.index.toNat } j c.index)
          | none => none
      else none
    | _, _ => none
  else none

/-- `PollPoller::fillActiveChannels`: the rest of the array, `numEvents`, and the channels and
`activeChannels` so far. -/
def fillActiveChannels (channels : Int → Option ι) :
    List PollFd → Nat → (ι → Polled Int) → List ι → Option ((ι → Polled Int) × List ι)
  | [], _, channel, active => some (channel, active)
  | pfd :: rest, numEvents, channel, active =>
    if 0 < numEvents then
      if 0 < pfd.revents.toInt then
        match channels pfd.fd with
        | some i =>
          if fd i = pfd.fd then
            fillActiveChannels channels rest (numEvents - 1)
              (Function.update channel i
                { channel i with revents := pfd.revents.signExtend 32 }) (active ++ [i])
          else none
        | none => none
      else fillActiveChannels channels rest numEvents channel active
    else some (channel, active)

/-- `PollPoller::poll`: the kernel writes `revents` of every entry and returns how many of them
are not zero. -/
def poll (s : PollPoller ι) : Answer → Option (PollPoller ι)
  | none => some { s with active := [] }
  | some revents =>
    let pollfds := List.zipWith (fun pfd r => { pfd with revents := r }) s.pollfds revents
    let numEvents := pollfds.countP fun pfd => pfd.revents ≠ 0
    if 0 < numEvents then
      (fillActiveChannels fd s.channels pollfds numEvents s.channel []).map fun result =>
        { s with pollfds := pollfds, channel := result.1, active := result.2 }
    else some { s with pollfds := pollfds, active := [] }

/-- What `poll(2)` may answer: one `revents` for each entry, zero where the descriptor is
negative; the events of `poll(2)` leave the sign bit alone. -/
def Answers (pollfds : List PollFd) : Answer → Prop
  | none => True
  | some revents => List.Forall₂ (fun pfd r => 0 ≤ r.toInt ∧ (pfd.fd < 0 → r = 0)) pollfds revents

instance (pollfds : List PollFd) : DecidablePred (Answers pollfds)
  | none => instDecidableTrue
  | some revents => inferInstanceAs (Decidable (List.Forall₂ _ pollfds revents))

/-- An operation of a channel or a `poll` of the loop, in a process that may have ended at an
assert (`none`).  `remove` is called on a channel without events only. -/
def step : Option (PollPoller ι) → Act ι → Option (Option (PollPoller ι))
  | none, _ => none
  | some s, .call i op =>
    if op = .remove then
      if (s.channel i).events = kNoneEvent then some (removeChannel fd s i) else none
    else some (updateChannel fd (s.setEvents i (op.mask (s.channel i).events)) i)
  | some s, .poll answer => if Answers s.pollfds answer then some (poll fd s answer) else none

end Source

/-! ## What the array should be -/

variable (fd : ι → Nat)

/-- The channel is in `channels_` under its descriptor. -/
def Registered (s : PollPoller ι) (i : ι) : Prop := s.channels (fd i) = some i

/-- The entry of a channel: its mask, and its descriptor, negated when the mask is none. -/
structure Matches (pfd : PollFd) (i : ι) (c : Polled Int) : Prop where
  descriptor : pfd.fd = if c.events = kNoneEvent then -(fd i : Int) - 1 else fd i
  events : pfd.events.signExtend 32 = c.events

/-- `channels_`, `pollfds_` and the indexes are in one-to-one correspondence: each registered
channel has its entry at its index, each entry is that of a registered channel, and a channel
with events is registered. -/
structure Corresponds (s : PollPoller ι) : Prop where
  keys : ∀ d i, s.channels d = some i → d = fd i
  held : ∀ i, Registered fd s i →
    ∃ (k : Nat) (pfd : PollFd), (s.channel i).index = k ∧ s.pollfds[k]? = some pfd ∧
      Matches fd pfd i (s.channel i)
  owned : ∀ (k : Nat) (pfd : PollFd), s.pollfds[k]? = some pfd →
    ∃ i, Registered fd s i ∧ (s.channel i).index = k
  listed : ∀ i, (s.channel i).events ≠ kNoneEvent → Registered fd s i

/-- The channels reported by a `poll` are, once each, those whose entry has `revents`, each
with these as its own. -/
structure Reports (s : PollPoller ι) : Prop where
  once : s.active.Nodup
  exact : ∀ i, i ∈ s.active ↔ Registered fd s i ∧
    ∃ (k : Nat) (pfd : PollFd), (s.channel i).index = k ∧ s.pollfds[k]? = some pfd ∧
      pfd.revents ≠ 0
  own : ∀ i ∈ s.active, ∀ (k : Nat) (pfd : PollFd), (s.channel i).index = k →
    s.pollfds[k]? = some pfd → (s.channel i).revents = pfd.revents.signExtend 32

/-- The operations that `updateChannel` and `removeChannel` are made for: the first update of a
channel leaves events and finds its descriptor free, every later one finds the channel
registered, and so does a removal. -/
def Fits : Option (PollPoller ι) → Act ι → Prop
  | some s, .call i op =>
    if op ≠ .remove ∧ (s.channel i).index < 0 then
      op.mask (s.channel i).events ≠ kNoneEvent ∧ s.channels (fd i) = none
    else Registered fd s i
  | _, _ => True

variable {fd}

theorem corresponds_new : Corresponds fd (new : PollPoller ι) where
  keys := by simp [new]
  held := by simp [new, Registered]
  owned := by simp [new]
  listed := by simp [new, kNoneEvent]

theorem Matches.decode {pfd : PollFd} {i : ι} {c : Polled Int} (entry : Matches fd pfd i c) :
    (if pfd.fd < 0 then -pfd.fd - 1 else pfd.fd) = fd i := by
  rw [entry.descriptor]
  by_cases none : c.events = kNoneEvent
  · rw [if_pos none, if_pos (by omega)]
    omega
  · rw [if_neg none, if_neg (by omega)]

theorem Matches.either {pfd : PollFd} {i : ι} {c : Polled Int} (entry : Matches fd pfd i c) :
    pfd.fd = fd i ∨ pfd.fd = -(fd i : Int) - 1 := by
  rw [entry.descriptor]
  by_cases none : c.events = kNoneEvent
  · exact .inr (if_pos none)
  · exact .inl (if_neg none)

/-- Channels of one index are one channel. -/
theorem Corresponds.index_injective {s : PollPoller ι} (corresponds : Corresponds fd s) {i j : ι}
    (left : Registered fd s i) (right : Registered fd s j)
    (same : (s.channel i).index = (s.channel j).index) : i = j := by
  obtain ⟨k, pfd, index, there, entry⟩ := corresponds.held i left
  obtain ⟨k', pfd', index', there', entry'⟩ := corresponds.held j right
  obtain rfl : k = k' := by omega
  obtain rfl : pfd = pfd' := Option.some.inj (there.symm.trans there')
  have descriptor : (fd i : Int) = fd j := entry.decode.symm.trans entry'.decode
  have mapped : s.channels (fd i) = some j := by rw [descriptor]; exact right
  exact Option.some.inj (left.symm.trans mapped)

theorem Corresponds.owner {s : PollPoller ι} (corresponds : Corresponds fd s) {k : Nat}
    {pfd : PollFd} (there : s.pollfds[k]? = some pfd) :
    ∃ i, Registered fd s i ∧ (s.channel i).index = k ∧ Matches fd pfd i (s.channel i) := by
  obtain ⟨i, registered, index⟩ := corresponds.owned k pfd there
  obtain ⟨k', pfd', index', there', entry⟩ := corresponds.held i registered
  obtain rfl : k = k' := by omega
  obtain rfl : pfd = pfd' := Option.some.inj (there.symm.trans there')
  exact ⟨i, registered, index, entry⟩

/-- An entry that is not negated is found under its descriptor. -/
theorem Corresponds.found {s : PollPoller ι} (corresponds : Corresponds fd s) {k : Nat}
    {pfd : PollFd} (there : s.pollfds[k]? = some pfd) (positive : 0 ≤ pfd.fd) :
    ∃ i, s.channels pfd.fd = some i ∧ pfd.fd = fd i ∧ (s.channel i).index = k := by
  obtain ⟨i, registered, index, entry⟩ := corresponds.owner there
  have decoded := entry.decode
  rw [if_neg (by omega)] at decoded
  refine ⟨i, ?_, decoded, index⟩
  rw [decoded]
  exact registered

/-- No two entries have the same descriptor. -/
theorem Corresponds.nodup {s : PollPoller ι} (corresponds : Corresponds fd s) :
    (s.pollfds.map (·.fd)).Nodup := by
  rw [List.nodup_iff_getElem?_ne_getElem?]
  intro k k' before bound same
  rw [List.length_map] at bound
  rw [List.getElem?_map, List.getElem?_map, List.getElem?_eq_getElem bound,
    List.getElem?_eq_getElem (by omega), Option.map_some, Option.map_some] at same
  obtain ⟨i, registered, index, entry⟩ :=
    corresponds.owner (List.getElem?_eq_getElem (show k < s.pollfds.length by omega))
  obtain ⟨j, registered', index', entry'⟩ := corresponds.owner (List.getElem?_eq_getElem bound)
  have decoded := entry.decode
  rw [Option.some.inj same, entry'.decode] at decoded
  have mapped : s.channels (fd i) = some j := by
    rw [← decoded]
    exact registered'
  obtain rfl : i = j := Option.some.inj (registered.symm.trans mapped)
  omega

/-- Only descriptors, masks and indexes matter. -/
theorem Corresponds.congr {s s' : PollPoller ι} (corresponds : Corresponds fd s)
    (channels : s'.channels = s.channels)
    (channel : ∀ j, (s'.channel j).events = (s.channel j).events ∧
      (s'.channel j).index = (s.channel j).index)
    (pollfds : s'.pollfds.map (fun pfd => (pfd.fd, pfd.events)) =
      s.pollfds.map fun pfd => (pfd.fd, pfd.events)) : Corresponds fd s' where
  keys := by
    rw [channels]
    exact corresponds.keys
  held := by
    intro i registered
    rw [Registered, channels] at registered
    obtain ⟨k, pfd, index, there, entry⟩ := corresponds.held i registered
    have at_k : (s'.pollfds.map fun pfd => (pfd.fd, pfd.events))[k]? = some (pfd.fd, pfd.events) := by
      rw [pollfds, List.getElem?_map, there, Option.map_some]
    rw [List.getElem?_map, Option.map_eq_some_iff] at at_k
    obtain ⟨pfd', there', same⟩ := at_k
    obtain ⟨descriptor, events⟩ := Prod.mk.inj same
    refine ⟨k, pfd', ?_, there', ?_, ?_⟩
    · rw [(channel i).2, index]
    · rw [descriptor, (channel i).1, entry.descriptor]
    · rw [events, (channel i).1, entry.events]
  owned := by
    intro k pfd there
    have at_k : (s.pollfds.map fun pfd => (pfd.fd, pfd.events))[k]? = some (pfd.fd, pfd.events) := by
      rw [← pollfds, List.getElem?_map, there, Option.map_some]
    rw [List.getElem?_map, Option.map_eq_some_iff] at at_k
    obtain ⟨pfd', there', -⟩ := at_k
    obtain ⟨i, registered, index⟩ := corresponds.owned k pfd' there'
    refine ⟨i, ?_, ?_⟩
    · rw [Registered, channels]
      exact registered
    · rw [(channel i).2, index]
  listed := by
    intro i events
    rw [(channel i).1] at events
    rw [Registered, channels]
    exact corresponds.listed i events

/-! ## Removals -/

theorem keys_erase {s : PollPoller ι} (corresponds : Corresponds fd s) {j : ι} {d e : Int}
    (mapped : Function.update s.channels e none d = some j) : d = fd j := by
  by_cases here : d = e
  · simp [here] at mapped
  · rw [Function.update_of_ne here] at mapped
    exact corresponds.keys d j mapped

/-- The channel is no longer under its descriptor, and all others are. -/
theorem registered_erase {s : PollPoller ι} {i j : ι} (registered : Registered fd s i) :
    Registered fd { s with channels := Function.update s.channels (fd i) none } j ↔
      Registered fd s j ∧ j ≠ i := by
  by_cases same : fd j = fd i
  · constructor
    · intro there
      simp [Registered, same] at there
    · rintro ⟨there, other⟩
      rw [Registered, same] at there
      exact absurd (Option.some.inj (there.symm.trans registered)) other
  · have other : j ≠ i := fun self => same (by rw [self])
    have apart : (fd j : Int) ≠ fd i := by omega
    simp only [Registered, Function.update_of_ne apart, other, ne_eq, not_false_eq_true, and_true]

/-- The array without the last entry, that of `i`. -/
theorem Corresponds.pop {s : PollPoller ι} (corresponds : Corresponds fd s) {i : ι}
    (registered : Registered fd s i) (quiet : (s.channel i).events = kNoneEvent)
    (last : (s.channel i).index = s.pollfds.length - 1) :
    Corresponds fd
      { s with
        channels := Function.update s.channels (fd i) none
        pollfds := s.pollfds.dropLast } where
  keys := fun _ _ => keys_erase corresponds
  held := by
    intro j there
    obtain ⟨before, other⟩ := (registered_erase registered).mp there
    obtain ⟨k, pfd, index, at_k, entry⟩ := corresponds.held j before
    refine ⟨k, pfd, index, ?_, entry⟩
    have inside : k < s.pollfds.length - 1 := by
      have bound := (List.getElem?_eq_some_iff.mp at_k).1
      have apart : (s.channel j).index ≠ (s.channel i).index :=
        fun same => other (corresponds.index_injective before registered same)
      omega
    rw [List.getElem?_dropLast, if_pos inside, at_k]
  owned := by
    intro k pfd there
    simp only [List.getElem?_dropLast, Option.ite_none_right_eq_some] at there
    obtain ⟨inside, there⟩ := there
    obtain ⟨j, before, index⟩ := corresponds.owned k pfd there
    have other : j ≠ i := by
      rintro rfl
      omega
    exact ⟨j, (registered_erase registered).mpr ⟨before, other⟩, index⟩
  listed := by
    intro j events
    have other : j ≠ i := by
      rintro rfl
      exact events quiet
    exact (registered_erase registered).mpr ⟨corresponds.listed j events, other⟩

variable [DecidableEq ι]

/-- The array with the entry of `i` replaced by the last one, that of `j`. -/
theorem Corresponds.swapPop {s : PollPoller ι} (corresponds : Corresponds fd s) {i j : ι} {k : Nat}
    (registered : Registered fd s i) (quiet : (s.channel i).events = kNoneEvent)
    (index : (s.channel i).index = k) (inside : k < s.pollfds.length - 1)
    (end_registered : Registered fd s j)
    (end_index : (s.channel j).index = (s.pollfds.length - 1 : Nat)) :
    Corresponds fd
      (setIndex
        { s with
          channels := Function.update s.channels (fd i) none
          pollfds := Lib.swapPop s.pollfds k } j k) where
  keys := fun _ _ => keys_erase corresponds
  held := by
    intro x there
    obtain ⟨before, other⟩ := (registered_erase registered).mp there
    obtain ⟨k', pfd, index', at_k', entry⟩ := corresponds.held x before
    by_cases moved : x = j
    · subst moved
      obtain rfl : k' = s.pollfds.length - 1 := by omega
      refine ⟨k, pfd, ?_, ?_, ?_⟩
      · simp [setIndex]
      · show (Lib.swapPop s.pollfds k)[k]? = some pfd
        rw [getElem?_swapPop_self inside, List.getLast?_eq_getElem?, at_k']
      · simpa [setIndex] using ⟨entry.1, entry.2⟩
    · have apart : k' ≠ k := by
        rintro rfl
        exact other (corresponds.index_injective before registered (by omega))
      have before_end : k' < s.pollfds.length - 1 := by
        have bound := (List.getElem?_eq_some_iff.mp at_k').1
        have apart' : (s.channel x).index ≠ (s.channel j).index :=
          fun same => moved (corresponds.index_injective before end_registered same)
        omega
      refine ⟨k', pfd, ?_, ?_, ?_⟩
      · simpa [setIndex, moved] using index'
      · show (Lib.swapPop s.pollfds k)[k']? = some pfd
        rw [getElem?_swapPop_of_ne inside apart, List.getElem?_dropLast, if_pos before_end, at_k']
      · simpa [setIndex, moved] using entry
  owned := by
    intro k' pfd there
    have there' : (Lib.swapPop s.pollfds k)[k']? = some pfd := there
    by_cases here : k' = k
    · subst here
      have other : j ≠ i := by
        rintro rfl
        omega
      refine ⟨j, (registered_erase registered).mpr ⟨end_registered, other⟩, ?_⟩
      simp [setIndex]
    · rw [getElem?_swapPop_of_ne inside here, List.getElem?_dropLast,
        Option.ite_none_right_eq_some] at there'
      obtain ⟨before_end, at_k'⟩ := there'
      obtain ⟨x, before, index'⟩ := corresponds.owned k' pfd at_k'
      have other : x ≠ i := by
        rintro rfl
        omega
      have stays : x ≠ j := by
        rintro rfl
        omega
      refine ⟨x, (registered_erase registered).mpr ⟨before, other⟩, ?_⟩
      simpa [setIndex, stays] using index'
  listed := by
    intro x events
    have events' : (s.channel x).events ≠ kNoneEvent := by
      by_cases moved : x = j
      · subst moved
        simpa [setIndex] using events
      · simpa [setIndex, moved] using events
    have other : x ≠ i := by
      rintro rfl
      exact events' quiet
    exact (registered_erase registered).mpr ⟨corresponds.listed x events', other⟩

/-- A removal that fits passes all asserts. -/
theorem removeChannel_fits {s : PollPoller ι} {i : ι} (corresponds : Corresponds fd s)
    (registered : Registered fd s i) (quiet : (s.channel i).events = kNoneEvent) :
    ∃ s', removeChannel fd s i = some s' ∧ Corresponds fd s' ∧
      ∀ j, (s'.channel j).events = (s.channel j).events := by
  obtain ⟨k, pfd, index, there, entry⟩ := corresponds.held i registered
  have inside := (List.getElem?_eq_some_iff.mp there).1
  have place : (s.channel i).index.toNat = k := by omega
  have mapped : s.channels (fd i) = some i := registered
  have negated : pfd.fd = -(fd i : Int) - 1 := by rw [entry.descriptor, if_pos quiet]
  obtain ⟨back, at_end⟩ : ∃ back, s.pollfds.getLast? = some back :=
    ⟨s.pollfds[s.pollfds.length - 1], by
      rw [List.getLast?_eq_getElem?, List.getElem?_eq_getElem]⟩
  by_cases last : (s.channel i).index = s.pollfds.length - 1
  · refine ⟨_, ?_, corresponds.pop registered quiet last, fun _ => rfl⟩
    have is_last : (k : Int) = s.pollfds.length - 1 := by omega
    simp only [removeChannel, mapped, quiet, index, Int.natCast_nonneg, Int.toNat_natCast, there,
      at_end, negated, entry.events, and_self, if_true, if_pos is_last]
  · have before_end : k < s.pollfds.length - 1 := by omega
    have at_end' : s.pollfds[s.pollfds.length - 1]? = some back :=
      List.getLast?_eq_getElem? ▸ at_end
    obtain ⟨j, end_registered, end_index⟩ := corresponds.owned _ _ at_end'
    have other : j ≠ i := by
      rintro rfl
      omega
    -- the descriptor at the end, decoded, is that of its channel
    have decoded : (if back.fd < 0 then -back.fd - 1 else back.fd) = fd j := by
      obtain ⟨k', pfd', index', there', entry'⟩ := corresponds.held j end_registered
      obtain rfl : k' = s.pollfds.length - 1 := by omega
      obtain rfl : back = pfd' := Option.some.inj (at_end'.symm.trans there')
      exact entry'.decode
    have found : Function.update s.channels (fd i) none (fd j) = some j :=
      (registered_erase registered).mpr ⟨end_registered, other⟩
    refine ⟨_, ?_, corresponds.swapPop registered quiet index before_end end_registered end_index,
      ?_⟩
    · have not_last : (k : Int) ≠ s.pollfds.length - 1 := by omega
      simp only [removeChannel, mapped, quiet, index, Int.natCast_nonneg, Int.toNat_natCast, there,
        at_end, negated, entry.events, decoded, found, and_self, if_true, if_neg not_last]
    · intro x
      by_cases moved : x = j
      · subst moved
        simp [setIndex]
      · simp [setIndex, moved]

/-! ## Updates -/

/-- The first update, with events. -/
theorem Corresponds.push {s : PollPoller ι} (corresponds : Corresponds fd s) {i : ι}
    {c : Polled Int} {e : PollFd} (free : s.channels (fd i) = none)
    (index : c.index = s.pollfds.length) (entry : Matches fd e i c) :
    Corresponds fd
      { s with
        channel := Function.update s.channel i c
        channels := Function.update s.channels (fd i) (some i)
        pollfds := s.pollfds ++ [e] } where
  keys := by
    intro d j mapped
    by_cases here : d = fd i
    · subst here
      simp only [Function.update_self, Option.some.injEq] at mapped
      rw [mapped]
    · simp only [Function.update_of_ne here] at mapped
      exact corresponds.keys d j mapped
  held := by
    intro j registered
    by_cases self : j = i
    · subst self
      refine ⟨s.pollfds.length, e, ?_, ?_, ?_⟩
      · simpa using index
      · simp
      · simpa using entry
    · have apart : (fd j : Int) ≠ fd i := by
        intro same
        simp only [Registered, same, Function.update_self, Option.some.injEq] at registered
        exact self registered.symm
      have before : Registered fd s j := by
        simpa only [Registered, Function.update_of_ne apart] using registered
      obtain ⟨k, pfd', index', there, entry'⟩ := corresponds.held j before
      refine ⟨k, pfd', ?_, ?_, ?_⟩
      · simpa [self] using index'
      · exact List.getElem?_append_left (List.getElem?_eq_some_iff.mp there).1 ▸ there
      · simpa [self] using entry'
  owned := by
    intro k pfd' there
    by_cases last : k = s.pollfds.length
    · subst last
      refine ⟨i, ?_, ?_⟩
      · simp [Registered]
      · simpa using index
    · have inside : k < s.pollfds.length := by
        have bound := (List.getElem?_eq_some_iff.mp there).1
        simp only [List.length_append, List.length_singleton] at bound
        omega
      rw [List.getElem?_append_left inside] at there
      obtain ⟨j, registered, index'⟩ := corresponds.owned k pfd' there
      have apart : (fd j : Int) ≠ fd i := by
        intro same
        rw [Registered, same, free] at registered
        exact absurd registered (by simp)
      have other : j ≠ i := fun self => apart (by rw [self])
      refine ⟨j, ?_, ?_⟩
      · simpa only [Registered, Function.update_of_ne apart] using registered
      · simpa [other] using index'
  listed := by
    intro j events
    by_cases self : j = i
    · subst self
      simp [Registered]
    · simp only [Function.update_of_ne self] at events
      have registered := corresponds.listed j events
      have apart : (fd j : Int) ≠ fd i := by
        intro same
        rw [Registered, same, free] at registered
        exact absurd registered (by simp)
      simpa only [Registered, Function.update_of_ne apart] using registered

/-- A later update: the entry and the mask of one registered channel change. -/
theorem Corresponds.set {s : PollPoller ι} (corresponds : Corresponds fd s) {i : ι} {k : Nat}
    {c : Polled Int} {e : PollFd} (registered : Registered fd s i)
    (index : (s.channel i).index = k) (same : c.index = k) (entry : Matches fd e i c) :
    Corresponds fd
      { s with channel := Function.update s.channel i c, pollfds := s.pollfds.set k e } where
  keys := corresponds.keys
  held := by
    intro j registered'
    obtain ⟨k', pfd', index', there, entry'⟩ := corresponds.held j registered'
    by_cases self : j = i
    · subst self
      obtain rfl : k' = k := by omega
      refine ⟨k', e, ?_, ?_, ?_⟩
      · simpa using same
      · rw [List.getElem?_set_self (List.getElem?_eq_some_iff.mp there).1]
      · simpa using entry
    · have apart : k ≠ k' := by
        rintro rfl
        exact self (corresponds.index_injective registered' registered (by omega))
      refine ⟨k', pfd', ?_, ?_, ?_⟩
      · simpa [self] using index'
      · rw [List.getElem?_set_ne apart, there]
      · simpa [self] using entry'
  owned := by
    intro k' pfd' there
    have inside : k' < s.pollfds.length := by
      simpa using (List.getElem?_eq_some_iff.mp there).1
    obtain ⟨j, registered', index'⟩ :=
      corresponds.owned k' _ (List.getElem?_eq_getElem inside)
    refine ⟨j, registered', ?_⟩
    by_cases self : j = i
    · subst self
      simp only [Function.update_self]
      omega
    · simpa [self] using index'
  listed := by
    intro j events
    by_cases self : j = i
    · subst self
      exact registered
    · simp only [Function.update_of_ne self] at events
      exact corresponds.listed j events

/-- An update that fits passes all asserts. -/
theorem updateChannel_fits {s : PollPoller ι} {i : ι} {m : Mask} (corresponds : Corresponds fd s)
    (known : m ∈ ChannelOp.masks)
    (fits : if (s.channel i).index < 0 then m ≠ kNoneEvent ∧ s.channels (fd i) = none
      else Registered fd s i) :
    ∃ s', updateChannel fd (s.setEvents i m) i = some s' ∧ Corresponds fd s' ∧
      ∀ j, (s'.channel j).events = if j = i then m else (s.channel j).events := by
  have mask := ChannelOp.signExtend_masks known
  by_cases first : (s.channel i).index < 0
  · rw [if_pos first] at fits
    obtain ⟨some_event, free⟩ := fits
    have pushed := corresponds.push (i := i) (c := ⟨m, (s.channel i).revents, s.pollfds.length⟩)
      (e := ⟨fd i, m.setWidth 16, 0⟩) free rfl ⟨by rw [if_neg some_event], mask⟩
    refine ⟨_, ?_, pushed, ?_⟩
    · simp [updateChannel, setEvents, setIndex, first, free]
    · intro j
      simp only [Function.update_apply]
      split <;> rfl
  · rw [if_neg first] at fits
    obtain ⟨k, pfd, index, there, entry⟩ := corresponds.held i fits
    have place : (s.channel i).index.toNat = k := by omega
    have replaced := corresponds.set (c := ⟨m, (s.channel i).revents, (s.channel i).index⟩)
      (e := ⟨if m = kNoneEvent then -fd i - 1 else fd i, m.setWidth 16, 0⟩) fits index index
      ⟨rfl, mask⟩
    refine ⟨_, ?_, replaced, ?_⟩
    · have mapped : s.channels (fd i) = some i := fits
      simp [updateChannel, setEvents, first, mapped, place, there, entry.either]
    · intro j
      simp only [Function.update_apply]
      split <;> rfl

/-! ## Polls -/

/-- What `fillActiveChannels` reports: the channels of the entries that have `revents`. -/
def reported (channels : Int → Option ι) (pollfds : List PollFd) : List ι :=
  (pollfds.filter fun pfd => pfd.revents ≠ 0).filterMap fun pfd => channels pfd.fd

/-- The loop of `fillActiveChannels`, on entries of which those with `revents` belong to a
channel, `numEvents` being their number. -/
theorem fillActiveChannels_eq {channels : Int → Option ι} :
    ∀ {pollfds : List PollFd}, (∀ pfd ∈ pollfds, 0 ≤ pfd.revents.toInt) →
      (∀ pfd ∈ pollfds, pfd.revents ≠ 0 → ∃ i, channels pfd.fd = some i ∧ pfd.fd = fd i) →
      (pollfds.map (·.fd)).Nodup → ∀ (channel : ι → Polled Int) (active : List ι),
      ∃ channel', fillActiveChannels fd channels pollfds
          (pollfds.countP fun pfd => pfd.revents ≠ 0) channel active =
            some (channel', active ++ reported channels pollfds) ∧
        (∀ j, (channel' j).events = (channel j).events ∧ (channel' j).index = (channel j).index) ∧
        (∀ j, j ∉ reported channels pollfds → channel' j = channel j) ∧
        ∀ pfd ∈ pollfds, pfd.revents ≠ 0 → ∀ i, channels pfd.fd = some i →
          (channel' i).revents = pfd.revents.signExtend 32 := by
  intro pollfds
  induction pollfds with
  | nil =>
    intro _ _ _ channel active
    exact ⟨channel, by simp [fillActiveChannels, reported], by simp, by simp, by simp⟩
  | cons pfd rest ih =>
    intro nonneg owned nodup channel active
    have nonneg' : ∀ e ∈ rest, 0 ≤ e.revents.toInt :=
      fun e mem => nonneg e (List.mem_cons_of_mem _ mem)
    have owned' : ∀ e ∈ rest, e.revents ≠ 0 → ∃ i, channels e.fd = some i ∧ e.fd = fd i :=
      fun e mem => owned e (List.mem_cons_of_mem _ mem)
    simp only [List.map_cons, List.nodup_cons] at nodup
    obtain ⟨apart, nodup⟩ := nodup
    by_cases ready : pfd.revents = 0
    · have same : reported channels (pfd :: rest) = reported channels rest := by
        simp [reported, ready]
      have count : (pfd :: rest).countP (fun pfd => pfd.revents ≠ 0) =
          rest.countP fun pfd => pfd.revents ≠ 0 := by
        simp [ready]
      rw [same, count]
      by_cases more : 0 < rest.countP fun pfd => pfd.revents ≠ 0
      · obtain ⟨channel', filled, kept, others, own⟩ := ih nonneg' owned' nodup channel active
        refine ⟨channel', ?_, kept, others, ?_⟩
        · rw [fillActiveChannels, if_pos more, if_neg (by simp [ready]), filled]
        · intro e mem there
          obtain rfl | mem := List.mem_cons.mp mem
          · exact absurd ready there
          · exact own e mem there
      · have quiet : ∀ e ∈ rest, e.revents = 0 := by
          have zero : rest.countP (fun pfd => pfd.revents ≠ 0) = 0 := by omega
          simpa using zero
        have nothing : reported channels rest = [] := by
          simpa [reported] using fun e mem there => absurd (quiet e mem) there
        refine ⟨channel, ?_, fun _ => ⟨rfl, rfl⟩, fun _ _ => rfl, ?_⟩
        · rw [fillActiveChannels, if_neg more, nothing, List.append_nil]
        · intro e mem there
          obtain rfl | mem := List.mem_cons.mp mem
          · exact absurd ready there
          · exact absurd (quiet e mem) there
    · obtain ⟨i, found, descriptor⟩ := owned pfd List.mem_cons_self ready
      have positive : 0 < pfd.revents.toInt := by
        have not_zero : pfd.revents.toInt ≠ 0 := by
          intro zero
          exact ready (BitVec.toInt_inj.mp zero)
        have := nonneg pfd List.mem_cons_self
        omega
      have count : (pfd :: rest).countP (fun pfd => pfd.revents ≠ 0) =
          rest.countP (fun pfd => pfd.revents ≠ 0) + 1 :=
        List.countP_cons_of_pos (decide_eq_true ready)
      have first : reported channels (pfd :: rest) = i :: reported channels rest := by
        have kept : (pfd :: rest).filter (fun pfd => pfd.revents ≠ 0) =
            pfd :: rest.filter fun pfd => pfd.revents ≠ 0 :=
          List.filter_cons_of_pos (decide_eq_true ready)
        simp only [reported, kept, List.filterMap_cons, found]
      have later : i ∉ reported channels rest := by
        intro mem
        simp only [reported, List.mem_filterMap, List.mem_filter, decide_eq_true_eq] at mem
        obtain ⟨e, ⟨mem, there⟩, found'⟩ := mem
        obtain ⟨j, found'', descriptor'⟩ := owned' e mem there
        obtain rfl : i = j := Option.some.inj (found'.symm.trans found'')
        exact apart (List.mem_map.mpr ⟨e, mem, by rw [descriptor, descriptor']⟩)
      obtain ⟨channel', filled, kept, others, own⟩ := ih nonneg' owned' nodup
        (Function.update channel i { channel i with revents := pfd.revents.signExtend 32 })
        (active ++ [i])
      rw [count, first]
      refine ⟨channel', ?_, ?_, ?_, ?_⟩
      · rw [fillActiveChannels, if_pos (Nat.succ_pos _), if_pos positive, found]
        simp only [← descriptor, if_true, Nat.add_sub_cancel, filled, List.append_assoc,
          List.singleton_append]
      · intro j
        rw [(kept j).1, (kept j).2]
        by_cases self : j = i
        · subst self
          simp
        · simp [self]
      · intro j absent
        obtain ⟨other, absent⟩ := not_or.mp (mt List.mem_cons.mpr absent)
        rw [others j absent, Function.update_of_ne other]
      · intro e mem there j found'
        obtain rfl | mem := List.mem_cons.mp mem
        · obtain rfl : i = j := Option.some.inj (found.symm.trans found')
          rw [others i later, Function.update_self]
        · exact own e mem there j found'

/-- The array after the kernel has answered: descriptors and masks as before, `revents` only
where the descriptor is not negative. -/
theorem answered {pollfds : List PollFd} {revents : List (BitVec 16)}
    (answers : Answers pollfds (some revents)) :
    (List.zipWith (fun pfd r => { pfd with revents := r }) pollfds revents).map
        (fun pfd : PollFd => (pfd.fd, pfd.events)) =
      pollfds.map (fun pfd => (pfd.fd, pfd.events)) ∧
    ∀ pfd ∈ List.zipWith (fun pfd r => { pfd with revents := r }) pollfds revents,
      0 ≤ (pfd : PollFd).revents.toInt ∧ (pfd.fd < 0 → pfd.revents = 0) := by
  simp only [Answers] at answers
  induction answers with
  | nil => simp
  | cons first rest ih =>
    refine ⟨?_, ?_⟩
    · simp [ih.1]
    · intro pfd mem
      rw [List.zipWith_cons_cons, List.mem_cons] at mem
      obtain rfl | mem := mem
      · exact first
      · exact ih.2 pfd mem

omit [DecidableEq ι] in
theorem mem_reported {channels : Int → Option ι} {pollfds : List PollFd} {i : ι} :
    i ∈ reported channels pollfds ↔
      ∃ pfd ∈ pollfds, pfd.revents ≠ 0 ∧ channels pfd.fd = some i := by
  simp only [reported, List.mem_filterMap, List.mem_filter, decide_eq_true_eq, and_assoc]

omit [DecidableEq ι] in
/-- Entries with different descriptors belong to different channels. -/
theorem Corresponds.nodup_reported {s : PollPoller ι} (corresponds : Corresponds fd s) :
    (reported s.channels s.pollfds).Nodup := by
  have kept : ((s.pollfds.filter fun pfd => pfd.revents ≠ 0).map (·.fd)).Nodup :=
    corresponds.nodup.sublist (List.filter_sublist.map _)
  have through : reported s.channels s.pollfds =
      ((s.pollfds.filter fun pfd => pfd.revents ≠ 0).map (·.fd)).filterMap s.channels := by
    rw [List.filterMap_map]
    rfl
  rw [through]
  apply kept.filterMap
  intro d d' i left right
  rw [corresponds.keys d i left, corresponds.keys d' i right]

omit [DecidableEq ι] in
/-- What the loop reports is what it should, where the kernel left the negated entries alone. -/
theorem Corresponds.reports {s : PollPoller ι} (corresponds : Corresponds fd s)
    (ignored : ∀ pfd ∈ s.pollfds, pfd.fd < 0 → pfd.revents = 0)
    (active : s.active = reported s.channels s.pollfds)
    (own : ∀ pfd ∈ s.pollfds, pfd.revents ≠ 0 → ∀ i, s.channels pfd.fd = some i →
      (s.channel i).revents = pfd.revents.signExtend 32) : Reports fd s where
  once := by
    rw [active]
    exact corresponds.nodup_reported
  exact := by
    intro i
    rw [active, mem_reported]
    constructor
    · rintro ⟨pfd, mem, ready, mapped⟩
      obtain ⟨k, there⟩ := List.mem_iff_getElem?.mp mem
      have positive : 0 ≤ pfd.fd := by
        by_contra negative
        exact ready (ignored pfd mem (by omega))
      obtain ⟨j, found, descriptor, index⟩ := corresponds.found there positive
      obtain rfl : i = j := Option.some.inj (mapped.symm.trans found)
      refine ⟨?_, k, pfd, index, there, ready⟩
      rw [Registered, ← descriptor]
      exact mapped
    · rintro ⟨registered, k, pfd, index, there, ready⟩
      have mem := List.mem_of_getElem? there
      have positive : 0 ≤ pfd.fd := by
        by_contra negative
        exact ready (ignored pfd mem (by omega))
      obtain ⟨j, found, descriptor, index'⟩ := corresponds.found there positive
      have registered' : Registered fd s j := by
        rw [Registered, ← descriptor]
        exact found
      obtain rfl := corresponds.index_injective registered registered' (by omega)
      exact ⟨pfd, mem, ready, found⟩
  own := by
    intro i mem k pfd index there
    rw [active, mem_reported] at mem
    obtain ⟨pfd', mem', ready, mapped⟩ := mem
    obtain ⟨k', there'⟩ := List.mem_iff_getElem?.mp mem'
    have positive : 0 ≤ pfd'.fd := by
      by_contra negative
      exact ready (ignored pfd' mem' (by omega))
    obtain ⟨j, found, -, index'⟩ := corresponds.found there' positive
    obtain rfl : i = j := Option.some.inj (mapped.symm.trans found)
    obtain rfl : k = k' := by omega
    obtain rfl : pfd = pfd' := Option.some.inj (there.symm.trans there')
    exact own pfd mem' ready i mapped

/-- A `poll` passes all asserts and reports the channels as it should. -/
theorem poll_fits {s : PollPoller ι} {answer : Answer} (corresponds : Corresponds fd s)
    (answers : Answers s.pollfds answer) :
    ∃ s', poll fd s answer = some s' ∧ Corresponds fd s' ∧
      (∀ j, (s'.channel j).events = (s.channel j).events) ∧ (answer ≠ none → Reports fd s') := by
  cases answer with
  | none =>
    exact ⟨_, rfl, corresponds.congr rfl (fun _ => ⟨rfl, rfl⟩) rfl, fun _ => rfl,
      fun given => absurd rfl given⟩
  | some revents =>
    obtain ⟨same, signs⟩ := answered answers
    generalize written : List.zipWith (fun (pfd : PollFd) r => { pfd with revents := r }) s.pollfds
      revents = pollfds at same signs
    have read : Corresponds fd { s with pollfds := pollfds } :=
      corresponds.congr rfl (fun _ => ⟨rfl, rfl⟩) same
    have owned : ∀ pfd ∈ pollfds, pfd.revents ≠ 0 →
        ∃ i, s.channels pfd.fd = some i ∧ pfd.fd = fd i := by
      intro pfd mem ready
      obtain ⟨k, there⟩ := List.mem_iff_getElem?.mp mem
      have positive : 0 ≤ pfd.fd := by
        by_contra negative
        exact ready ((signs pfd mem).2 (by omega))
      obtain ⟨i, found, descriptor, -⟩ := read.found there positive
      exact ⟨i, found, descriptor⟩
    obtain ⟨channel', filled, kept, -, own⟩ := fillActiveChannels_eq
      (fun pfd mem => (signs pfd mem).1) owned read.nodup s.channel []
    by_cases some_event : 0 < pollfds.countP fun pfd => pfd.revents ≠ 0
    · have after : Corresponds fd
          { s with
            pollfds := pollfds
            channel := channel'
            active := reported s.channels pollfds } := corresponds.congr rfl kept same
      refine ⟨_, ?_, after, fun j => (kept j).1,
        fun _ => after.reports (fun pfd mem => (signs pfd mem).2) rfl own⟩
      simp only [poll, written, if_pos some_event, filled, List.nil_append, Option.map_some]
    · have quiet : ∀ pfd ∈ pollfds, pfd.revents = 0 := by
        have zero : pollfds.countP (fun pfd => pfd.revents ≠ 0) = 0 := by omega
        simpa using zero
      have nothing : reported s.channels pollfds = [] := by
        simpa [reported] using fun pfd mem ready => absurd (quiet pfd mem) ready
      have after : Corresponds fd { s with pollfds := pollfds, active := [] } :=
        corresponds.congr rfl (fun _ => ⟨rfl, rfl⟩) same
      refine ⟨_, ?_, after, fun _ => rfl,
        fun _ => after.reports (fun pfd mem => (signs pfd mem).2) nothing.symm
          (fun pfd mem ready => absurd (quiet pfd mem) ready)⟩
      simp only [poll, written, if_neg some_event]

/-! ## Runs -/

variable (fd) in
/-- What a step should leave: the process goes on, the array corresponds to the channels, and a
`poll` has reported them. -/
def Kept (a : Act ι) (s : Option (PollPoller ι)) : Prop :=
  ∃ p, s = some p ∧ Corresponds fd p ∧
    ∀ revents, a = .poll (some revents) → Reports fd p

variable (fd) in
/-- What the steps that fit keep. -/
def Coherent (s : Option (PollPoller ι)) : Prop :=
  ∃ p, s = some p ∧ Corresponds fd p ∧ ∀ i, (p.channel i).events ∈ ChannelOp.masks

omit [DecidableEq ι] in
theorem coherent_new : Coherent fd (some (new : PollPoller ι)) :=
  ⟨_, rfl, corresponds_new, fun _ => List.mem_cons_self⟩

theorem coherent_step {s s' : Option (PollPoller ι)} {a : Act ι} (coherent : Coherent fd s)
    (fits : Fits fd s a) (moved : step fd s a = some s') :
    Coherent fd s' ∧ Kept fd a s' := by
  obtain ⟨p, rfl, corresponds, known⟩ := coherent
  cases a with
  | call i op =>
    by_cases removal : op = .remove
    · subst removal
      simp only [step, if_true] at moved
      obtain ⟨quiet, rfl⟩ := some_of_guard moved
      have registered : Registered fd p i := by
        simpa only [Fits, ne_eq, not_true_eq_false, false_and, if_false] using fits
      obtain ⟨p', removed, after, events⟩ := removeChannel_fits corresponds registered quiet
      rw [removed]
      refine ⟨⟨p', rfl, after, ?_⟩, p', rfl, after, by simp⟩
      intro j
      rw [events j]
      exact known j
    · simp only [step, if_neg removal, Option.some.injEq] at moved
      subst moved
      have mask := ChannelOp.mask_mem op (known i)
      obtain ⟨p', updated, after, events⟩ := updateChannel_fits corresponds mask
        (by simpa only [Fits, ne_eq, removal, not_false_eq_true, true_and] using fits)
      rw [updated]
      refine ⟨⟨p', rfl, after, ?_⟩, p', rfl, after, by simp⟩
      intro j
      rw [events j]
      by_cases self : j = i
      · rw [if_pos self]
        exact mask
      · rw [if_neg self]
        exact known j
  | poll answer =>
    simp only [step] at moved
    obtain ⟨answers, rfl⟩ := some_of_guard moved
    obtain ⟨p', polled, after, events, reports⟩ := poll_fits corresponds answers
    rw [polled]
    refine ⟨⟨p', rfl, after, ?_⟩, p', rfl, after, ?_⟩
    · intro j
      rw [events j]
      exact known j
    · rintro revents same
      apply reports
      cases same
      simp

/-- The first update pushes an entry that is not negated. -/
theorem updateChannel_first {s s' : PollPoller ι} {i : ι} {m : Mask}
    (first : (s.channel i).index < 0) (after : Corresponds fd s')
    (updated : updateChannel fd (s.setEvents i m) i = some s') :
    m ≠ kNoneEvent ∧ s.channels (fd i) = none := by
  simp only [updateChannel, setEvents, Function.update_self, if_pos first] at updated
  obtain ⟨free, rfl⟩ := some_of_guard updated
  refine ⟨?_, free⟩
  rintro rfl
  obtain ⟨k, pfd, index, there, entry⟩ := after.held i (Function.update_self ..)
  simp only [setIndex, Function.update_self] at index entry
  obtain rfl : s.pollfds.length = k := by omega
  have pushed : pfd.fd = fd i := by
    simp only [setIndex, List.getElem?_concat_length, Option.some.injEq] at there
    rw [← there]
  have negated := entry.descriptor
  rw [pushed, if_pos rfl] at negated
  omega

theorem updateChannel_later {s s' : PollPoller ι} {i : ι} {m : Mask}
    (later : ¬(s.channel i).index < 0)
    (updated : updateChannel fd (s.setEvents i m) i = some s') : Registered fd s i := by
  simp only [updateChannel, setEvents, Function.update_self, if_neg later] at updated
  split at updated
  · assumption
  · exact absurd updated (by simp)

/-- Only the steps that fit leave what they should. -/
theorem fits_of_kept {s s' : Option (PollPoller ι)} {a : Act ι} (coherent : Coherent fd s)
    (moved : step fd s a = some s') (kept : Kept fd a s') : Fits fd s a := by
  obtain ⟨p, rfl, corresponds, known⟩ := coherent
  obtain ⟨p', rfl, after, -⟩ := kept
  cases a with
  | poll answer => trivial
  | call i op =>
    by_cases removal : op = .remove
    · subst removal
      simp only [step, if_true] at moved
      obtain ⟨-, removed⟩ := some_of_guard moved
      simp only [removeChannel] at removed
      split at removed
      · next held => simpa [Fits, Registered] using held.1
      · exact absurd removed (by simp)
    · simp only [step, if_neg removal, Option.some.injEq] at moved
      simp only [Fits]
      by_cases first : (p.channel i).index < 0
      · rw [if_pos ⟨removal, first⟩]
        exact updateChannel_first first after moved
      · rw [if_neg (fun both => first both.2)]
        exact updateChannel_later first moved

variable (fd) in
/-- The array corresponds to the channels all along a sequence of operations and polls, no assert
fails, and every `poll` reports as it should, iff each operation fits where it is made. -/
theorem kept_iff_fits (acts : List (Act ι)) :
    EachStep (step fd) (fun _ a s' => Kept fd a s') (some new) acts ↔
      EachStep (step fd) (fun s a _ => Fits fd s a) (some new) acts := by
  have start : Coherent fd (some (new : PollPoller ι)) := coherent_new
  apply EachStep.iff_of_invariant _ _ start
  · intro s a s' coherent fits moved
    exact coherent_step coherent fits moved
  · intro s a s' coherent moved kept
    exact fits_of_kept coherent moved kept

/-- (1) `disableAll` on a channel that was never updated, as the destructor of an `Acceptor` that
never listened does: its entry is not negated, and `remove` ends at an assert.  (2) A removed
channel is updated again: its index is still that of the entry it had. -/
theorem not_kept :
    ¬EachStep (step fun _ : Unit => 3) (fun _ a s' => Kept (fun _ => 3) a s') (some new)
        [.call () .disableAll] ∧
      ¬EachStep (step fun _ : Unit => 3) (fun _ a s' => Kept (fun _ => 3) a s') (some new)
        [.call () .enableReading, .call () .disableAll, .call () .remove,
          .call () .enableReading] := by
  constructor
  · intro run
    obtain ⟨p, reached, after, -⟩ := (run _ rfl).1
    obtain ⟨k, pfd, index, there, entry⟩ := after.held () (by cases reached; rfl)
    cases reached
    obtain rfl : 0 = k := Int.ofNat.inj index
    obtain rfl : (⟨3, 0, 0⟩ : PollFd) = pfd := Option.some.inj there
    exact absurd entry.descriptor (by decide)
  · intro run
    obtain ⟨p, reached, -⟩ := ((((run _ rfl).2 _ rfl).2 _ rfl).2 _ rfl).1
    cases reached

end PollPoller

end NewFramework.Net
