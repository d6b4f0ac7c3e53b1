import Quarry.Event.Channels
import Quarry.Proofs.Event.Broadcast

/-!
# What subscribers get over channels

A bus that sends over channels does what the broadcast bus does, step by step
(`ChannelBus.perform_toBroadcast`). The pass over the list of senders, which sends a message and
takes senders off the list at the same time, leaves out nobody and sends nothing twice, because each
channel has at most one sender on the list (`ChannelBus.getElem?_sendAll`, `ChannelBus.mem_sendAll`).
So subscribers of either bus get what they have to (`every_run_fansOut`).
-/

namespace Quarry

/-- What the bus over channels `b` answers to a step, and the bus afterwards. -/
def ChannelBus.perform {μ : Type} (b : ChannelBus μ) : BusStep μ → BusAnswer μ × ChannelBus μ
  | .subscribe => (.done, b.subscribe)
  | .publish message =>
    (.published (EventBus.publish b message).1, (EventBus.publish b message).2)
  | .leave index => (.done, b.leave index)
  | .tryReceive index => (.received (b.receive? index).1, (b.receive? index).2)
  | .drain index => (.drained (b.drain index).1, (b.drain index).2)

/-! ## One pass over the senders -/

/-- The channel `c` after a `message` was sent into it. Nothing comes into a channel that is not
received from. -/
def Channel.put {μ : Type} (c : Channel μ) (message : μ) : Channel μ :=
  if c.isReceived then { c with queue := c.queue ++ [message] } else c

namespace ChannelBus

variable {μ : Type} {message : μ} {sender index : Nat} {channels : List (Channel μ)}

theorem send_fst :
    (send message sender channels).1 = true ↔
      ∃ c, channels[sender]? = some c ∧ c.isReceived = true := by
  unfold send
  split
  · next queue h => exact iff_of_true rfl ⟨_, h, rfl⟩
  · next h =>
    refine iff_of_false Bool.false_ne_true ?_
    rintro ⟨⟨queue, isReceived⟩, hc, rfl⟩
    exact h queue hc

/-- A message that is sent comes into the channel of its sender only. -/
theorem getElem?_send :
    (send message sender channels).2[index]? =
      if sender = index then (channels[index]?).map (·.put message) else channels[index]? := by
  unfold send
  split
  · next queue h =>
    have hlt := (List.getElem?_eq_some_iff.mp h).1
    split
    · next heq =>
      subst heq
      rw [List.getElem?_set_self hlt, h]
      rfl
    · next hne => rw [List.getElem?_set_ne hne]
  · next h =>
    split
    · next heq =>
      subst heq
      cases hc : channels[sender]? with
      | none => rfl
      | some c =>
        obtain ⟨queue, isReceived⟩ := c
        cases isReceived with
        | true => exact absurd hc (h queue)
        | false => rfl
    · rfl

/-- A message goes into the channels of the `senders`, and into each of them once. -/
theorem getElem?_sendAll {senders : List Nat} (hnodup : senders.Nodup) :
    (sendAll message senders channels).2[index]? =
      if index ∈ senders then (channels[index]?).map (·.put message) else channels[index]? := by
  induction senders generalizing channels with
  | nil => rfl
  | cons sender rest ih =>
    obtain ⟨hsender, hrest⟩ := List.nodup_cons.mp hnodup
    show (sendAll message rest (send message sender channels).2).2[index]? = _
    rw [ih hrest, getElem?_send]
    by_cases heq : sender = index
    · subst heq
      rw [if_neg hsender, if_pos rfl, if_pos List.mem_cons_self]
    · have hmem : index ∈ sender :: rest ↔ index ∈ rest := by
        rw [List.mem_cons, or_iff_right fun h => heq h.symm]
      rw [if_neg heq]
      simp only [hmem]

/-- Of the `senders`, those stay on the list that somebody receives from. -/
theorem mem_sendAll {senders : List Nat} (hnodup : senders.Nodup) :
    index ∈ (sendAll message senders channels).1 ↔
      index ∈ senders ∧ ∃ c, channels[index]? = some c ∧ c.isReceived = true := by
  induction senders generalizing channels with
  | nil => exact iff_of_false List.not_mem_nil fun h => List.not_mem_nil h.1
  | cons sender rest ih =>
    obtain ⟨hsender, hrest⟩ := List.nodup_cons.mp hnodup
    -- The rest of the pass sees the channels after the first message. None of its own has changed,
    -- as the first sender is not on the list again.
    have hkept : index ∈ (sendAll message rest (send message sender channels).2).1 ↔
        index ∈ rest ∧ ∃ c, channels[index]? = some c ∧ c.isReceived = true := by
      rw [ih hrest, getElem?_send]
      refine and_congr_right fun hindex => ?_
      rw [if_neg fun heq : sender = index => hsender (heq ▸ hindex)]
    show index ∈ (if (send message sender channels).1 then
      sender :: (sendAll message rest (send message sender channels).2).1
      else (sendAll message rest (send message sender channels).2).1) ↔ _
    by_cases hsent : (send message sender channels).1 = true
    · rw [if_pos hsent, List.mem_cons, List.mem_cons, hkept]
      constructor
      · rintro (rfl | h)
        · exact ⟨.inl rfl, send_fst.mp hsent⟩
        · exact ⟨.inr h.1, h.2⟩
      · rintro ⟨rfl | h, hc⟩
        · exact .inl rfl
        · exact .inr ⟨h, hc⟩
    · rw [if_neg hsent, hkept, List.mem_cons]
      refine and_congr_left fun hc => ?_
      refine (or_iff_right ?_).symm
      rintro rfl
      exact hsent (send_fst.mpr hc)

theorem sendAll_sublist (message : μ) (senders : List Nat) (channels : List (Channel μ)) :
    (sendAll message senders channels).1.Sublist senders := by
  induction senders generalizing channels with
  | nil => exact List.Sublist.refl _
  | cons sender rest ih =>
    show (if (send message sender channels).1 then
      sender :: (sendAll message rest (send message sender channels).2).1
      else (sendAll message rest (send message sender channels).2).1).Sublist _
    split
    · exact (ih _).cons_cons sender
    · exact (ih _).cons sender

theorem length_sendAll (message : μ) (senders : List Nat) (channels : List (Channel μ)) :
    (sendAll message senders channels).2.length = channels.length := by
  induction senders generalizing channels with
  | nil => rfl
  | cons sender rest ih =>
    refine (ih (send message sender channels).2).trans ?_
    unfold send
    split
    · exact List.length_set
    · rfl

/-- The senders on the list are those of different channels: none is on it twice, and each has its
channel. -/
structure IsWellFormed (b : ChannelBus μ) : Prop where
  nodup : b.senders.Nodup
  lt_length : ∀ sender ∈ b.senders, sender < b.channels.length

theorem isWellFormed_empty : (empty : ChannelBus μ).IsWellFormed :=
  ⟨List.nodup_nil, nofun⟩

/-- The subscriptions of a bus over channels, as a broadcast bus has them. A subscription is listed
if its sender is. -/
def toBroadcast (b : ChannelBus μ) : BroadcastBus μ :=
  ⟨b.channels.mapIdx fun index c => ⟨c.queue, c.isReceived, decide (index ∈ b.senders)⟩, false⟩

variable {b : ChannelBus μ}

theorem getElem?_toBroadcast (b : ChannelBus μ) (index : Nat) :
    b.toBroadcast.subscriptions[index]? =
      (b.channels[index]?).map fun c => ⟨c.queue, c.isReceived, decide (index ∈ b.senders)⟩ :=
  List.getElem?_mapIdx

/-- Two broadcast buses are one if they are open and have the same subscriptions. -/
theorem toBroadcast_ext {b : BroadcastBus μ} {b' : ChannelBus μ} (hopen : b.isClosed = false)
    (h : ∀ index : Nat, b'.toBroadcast.subscriptions[index]? = b.subscriptions[index]?) :
    b'.toBroadcast = b := by
  obtain ⟨subscriptions, isClosed⟩ := b
  cases hopen
  exact congrArg (BroadcastBus.mk · false) (List.ext_getElem? h)

/-- Every `step` preserves that the senders are those of different channels. -/
theorem IsWellFormed.perform (h : b.IsWellFormed) (step : BusStep μ) :
    (b.perform step).2.IsWellFormed := by
  cases step with
  | subscribe =>
    constructor
    · refine List.nodup_append.mpr ⟨h.nodup, List.nodup_singleton _, ?_⟩
      rintro i hi j hj rfl
      rw [List.mem_singleton.mp hj] at hi
      exact Nat.lt_irrefl _ (h.lt_length _ hi)
    · intro i hi
      show i < (b.channels ++ [_]).length
      rw [List.length_append, List.length_singleton]
      rcases List.mem_append.mp hi with hi | hi
      · exact Nat.lt_succ_of_lt (h.lt_length i hi)
      · rw [List.mem_singleton.mp hi]
        exact Nat.lt_succ_self _
  | publish message =>
    have hsublist := sendAll_sublist message b.senders b.channels
    constructor
    · exact h.nodup.sublist hsublist
    · intro i hi
      show i < (sendAll message b.senders b.channels).2.length
      rw [length_sendAll]
      exact h.lt_length i (hsublist.subset hi)
  | leave i => exact ⟨h.nodup, fun j hj => (h.lt_length j hj).trans_eq (List.length_modify _ _ _).symm⟩
  | tryReceive i =>
    show (b.receive? i).2.IsWellFormed
    unfold receive?
    split
    · exact ⟨h.nodup, fun j hj => (h.lt_length j hj).trans_eq List.length_set.symm⟩
    · exact h
  | drain i =>
    show (b.drain i).2.IsWellFormed
    unfold drain
    split
    · exact ⟨h.nodup, fun j hj => (h.lt_length j hj).trans_eq List.length_set.symm⟩
    · exact h

/-! ### One step of both -/

theorem subscribe_toBroadcast (b : ChannelBus μ) :
    b.subscribe.toBroadcast = b.toBroadcast.subscribe := by
  refine toBroadcast_ext rfl fun index => ?_
  have hlength : b.toBroadcast.subscriptions.length = b.channels.length := List.length_mapIdx
  rw [getElem?_toBroadcast]
  show ((b.channels ++ [_])[index]?).map _ = (b.toBroadcast.subscriptions ++ [.new])[index]?
  rcases Nat.lt_trichotomy index b.channels.length with hlt | rfl | hgt
  · rw [List.getElem?_append_left hlt, List.getElem?_append_left (hlength ▸ hlt),
      getElem?_toBroadcast]
    have hlisted : index ∈ b.subscribe.senders ↔ index ∈ b.senders := by
      show index ∈ b.senders ++ [b.channels.length] ↔ _
      rw [List.mem_append, List.mem_singleton, or_iff_left (Nat.ne_of_lt hlt)]
    simp only [hlisted]
  · have hlisted : b.channels.length ∈ b.subscribe.senders :=
      List.mem_append_right _ (List.mem_singleton.mpr rfl)
    rw [List.getElem?_concat_length, ← hlength, List.getElem?_concat_length, hlength]
    simp only [Option.map_some, hlisted, decide_true]
    rfl
  · rw [List.getElem?_eq_none, List.getElem?_eq_none]
    · rfl
    · rw [List.length_append, hlength]
      exact hgt
    · rw [List.length_append]
      exact hgt

/-- Publishing over channels delivers to the subscriptions that are listed. -/
theorem publish_toBroadcast (h : b.IsWellFormed) (message : μ) :
    (b.publish message).2.toBroadcast = b.toBroadcast.broadcast message := by
  refine toBroadcast_ext rfl fun index => ?_
  have hbroadcast : (b.toBroadcast.broadcast message).subscriptions[index]? =
      (b.toBroadcast.subscriptions[index]?).map (·.deliver message) := List.getElem?_map
  have hsenders : (b.publish message).2.senders = (sendAll message b.senders b.channels).1 := rfl
  have hchannels : (b.publish message).2.channels = (sendAll message b.senders b.channels).2 := rfl
  rw [hbroadcast, getElem?_toBroadcast, getElem?_toBroadcast, hsenders, hchannels,
    getElem?_sendAll h.nodup]
  simp only [mem_sendAll h.nodup]
  cases hc : b.channels[index]? with
  | none => split <;> rfl
  | some c =>
    obtain ⟨queue, isReceived⟩ := c
    by_cases hlisted : index ∈ b.senders
    · cases isReceived <;> simp [hlisted, Channel.put, Subscription.deliver]
    · simp [hlisted, Subscription.deliver]

theorem leave_toBroadcast (b : ChannelBus μ) (i : Nat) :
    (b.leave i).toBroadcast = b.toBroadcast.leave i := by
  refine toBroadcast_ext rfl fun index => ?_
  rw [getElem?_toBroadcast]
  show ((b.channels.modify i _)[index]?).map _ = (b.toBroadcast.subscriptions.modify i _)[index]?
  rw [List.getElem?_modify, List.getElem?_modify, getElem?_toBroadcast]
  cases b.channels[index]? with
  | none => rfl
  | some c =>
    show some _ = some _
    split <;> rfl

/-- Whatever is taken out of the channel of a subscriber who is there is taken out of the
subscription. -/
theorem set_toBroadcast {i : Nat} {c : Channel μ} (hc : b.channels[i]? = some c)
    (hreceived : c.isReceived = true) (queue : List μ) :
    toBroadcast { b with channels := b.channels.set i ⟨queue, true⟩ } =
      b.toBroadcast.setQueue i queue := by
  refine toBroadcast_ext rfl fun index => ?_
  rw [getElem?_toBroadcast]
  show ((b.channels.set i _)[index]?).map _ = (b.toBroadcast.subscriptions.modify i _)[index]?
  rw [List.getElem?_modify, getElem?_toBroadcast]
  by_cases hi : i = index
  · subst hi
    rw [List.getElem?_set_self (List.getElem?_eq_some_iff.mp hc).1, hc]
    show some (Subscription.mk queue true _) =
      some (if i = i then ⟨queue, c.isReceived, _⟩ else _)
    rw [if_pos rfl, hreceived]
  · rw [List.getElem?_set_ne hi]
    cases b.channels[index]? with
    | none => rfl
    | some c' =>
      show some _ = some (if i = index then _ else _)
      rw [if_neg hi]

theorem active?_toBroadcast (b : ChannelBus μ) (i : Nat) :
    b.toBroadcast.active? i = ((b.channels[i]?).filter (·.isReceived)).map fun c =>
      ⟨c.queue, c.isReceived, decide (i ∈ b.senders)⟩ := by
  rw [BroadcastBus.active?, getElem?_toBroadcast]
  cases b.channels[i]? with
  | none => rfl
  | some c =>
    rw [Option.map_some, Option.filter_some, Option.filter_some]
    split <;> rfl

theorem queue?_toBroadcast (b : ChannelBus μ) (i : Nat) :
    b.toBroadcast.queue? i = b.queue? i := by
  rw [BroadcastBus.queue?, active?_toBroadcast, Option.map_map]
  rfl

/-- What is received from a channel is received from the subscription. -/
theorem receive?_toBroadcast (b : ChannelBus μ) (i : Nat) :
    (b.toBroadcast.receive .none i).1.toOption = (b.receive? i).1 ∧
      (b.toBroadcast.receive .none i).2 = (b.receive? i).2.toBroadcast := by
  have hqueue : (b.toBroadcast.active? i).map Subscription.queue = b.queue? i :=
    b.queue?_toBroadcast i
  rw [BroadcastBus.receive, hqueue, queue?, receive?]
  cases hc : b.channels[i]? with
  | none => exact ⟨rfl, rfl⟩
  | some c =>
    obtain ⟨queue, isReceived⟩ := c
    cases isReceived with
    | false => cases queue <;> exact ⟨rfl, rfl⟩
    | true =>
      cases queue with
      | nil => exact ⟨rfl, rfl⟩
      | cons message rest => exact ⟨rfl, (set_toBroadcast hc rfl rest).symm⟩

/-- What is drained from a channel is drained from the subscription. -/
theorem drain_toBroadcast (b : ChannelBus μ) (i : Nat) :
    (b.toBroadcast.drain i).1 = (b.drain i).1 ∧
      (b.toBroadcast.drain i).2 = (b.drain i).2.toBroadcast := by
  rw [BroadcastBus.drain, active?_toBroadcast, drain]
  cases hc : b.channels[i]? with
  | none => exact ⟨rfl, rfl⟩
  | some c =>
    obtain ⟨queue, isReceived⟩ := c
    cases isReceived with
    | false => exact ⟨rfl, rfl⟩
    | true => exact ⟨rfl, (set_toBroadcast hc rfl []).symm⟩

/-- The two buses answer a `step` alike, and alike they go on. -/
theorem perform_toBroadcast (h : b.IsWellFormed) (step : BusStep μ) :
    b.toBroadcast.perform step = ((b.perform step).1, (b.perform step).2.toBroadcast) := by
  cases step with
  | subscribe => exact congrArg (Prod.mk BusAnswer.done) b.subscribe_toBroadcast.symm
  | publish message =>
    exact congrArg (Prod.mk (BusAnswer.published (.ok ()))) (publish_toBroadcast h message).symm
  | leave i => exact congrArg (Prod.mk BusAnswer.done) (b.leave_toBroadcast i).symm
  | tryReceive i =>
    obtain ⟨hanswer, hbus⟩ := b.receive?_toBroadcast i
    rw [BroadcastBus.perform, hanswer, hbus, perform]
  | drain i =>
    obtain ⟨hanswer, hbus⟩ := b.drain_toBroadcast i
    rw [BroadcastBus.perform, hanswer, hbus, perform]

/-- The two buses have one history, and the bus over channels stays well-formed. -/
theorem runSteps_toBroadcast (h : b.IsWellFormed) (steps : List (BusStep μ)) :
    (runSteps perform b steps).2.IsWellFormed ∧
      runSteps BroadcastBus.perform b.toBroadcast steps =
        ((runSteps perform b steps).1, (runSteps perform b steps).2.toBroadcast) := by
  induction steps generalizing b with
  | nil => exact ⟨h, rfl⟩
  | cons step rest ih =>
    obtain ⟨hwell, hrest⟩ := ih (h.perform step)
    refine ⟨hwell, ?_⟩
    rw [runSteps, perform_toBroadcast h, hrest, runSteps]

/-- The senders on the list are as many as the subscriptions that are listed. -/
theorem subscriberCount_toBroadcast (h : b.IsWellFormed) :
    b.toBroadcast.subscriberCount = b.subscriberCount := by
  rw [BroadcastBus.subscriberCount, ← ncard_setOf_getElem?]
  have hsenders : {i : Nat | ∃ s, b.toBroadcast.subscriptions[i]? = some s ∧ s.isListed = true} =
      (b.senders.toFinset : Set Nat) := by
    ext i
    rw [Set.mem_ofPred_eq, List.coe_toFinset, Set.mem_ofPred_eq, getElem?_toBroadcast]
    constructor
    · rintro ⟨s, hs, hlisted⟩
      obtain ⟨c, -, rfl⟩ := Option.map_eq_some_iff.mp hs
      exact of_decide_eq_true hlisted
    · intro hi
      have hlt := h.lt_length i hi
      rw [List.getElem?_eq_getElem hlt]
      exact ⟨_, rfl, decide_eq_true hi⟩
  rw [hsenders, Set.ncard_coe_finset, List.toFinset_card_of_nodup h.nodup]
  rfl

end ChannelBus

variable {μ : Type}

/-- In every run of a bus that starts without subscriptions, be it the broadcast bus or the bus that
sends over channels, the messages fan out: each message is published, each subscriber who is still
there has got or has yet to read just the messages since the subscription in their order, whatever
is done with the other subscriptions, and the subscribers are counted who did not leave before a
message. -/
theorem every_run_fansOut (steps : List (BusStep μ)) :
    FansOut steps (runSteps BroadcastBus.perform (.empty : BroadcastBus μ) steps).1
        (runSteps BroadcastBus.perform .empty steps).2.queue?
        (runSteps BroadcastBus.perform .empty steps).2.subscriberCount ∧
      FansOut steps (runSteps ChannelBus.perform (.empty : ChannelBus μ) steps).1
        (runSteps ChannelBus.perform .empty steps).2.queue?
        (runSteps ChannelBus.perform .empty steps).2.subscriberCount := by
  have hbroadcast : FansOut steps (runSteps BroadcastBus.perform (.empty : BroadcastBus μ) steps).1
      _ _ := BroadcastBus.fansOut_runSteps steps
  refine ⟨hbroadcast, ?_⟩
  have hstart : (.empty : ChannelBus μ).IsWellFormed := ChannelBus.isWellFormed_empty
  have hempty : (.empty : ChannelBus μ).toBroadcast = .empty := rfl
  obtain ⟨hwell, hsame⟩ := ChannelBus.runSteps_toBroadcast hstart steps
  rw [hempty] at hsame
  have hqueues := funext (ChannelBus.queue?_toBroadcast
    (runSteps ChannelBus.perform (.empty : ChannelBus μ) steps).2)
  rw [hsame, ChannelBus.subscriberCount_toBroadcast hwell] at hbroadcast
  rwa [hqueues] at hbroadcast

end Quarry
