import Mathlib.Data.List.Induction
import Mathlib.Data.Set.Card
import Quarry.Event.Broadcast

/-!
# What subscribers get

Whatever is done with a bus that starts without subscriptions, each message is published, and each
subscriber who is still there has got, or has yet to read, just the messages since the subscription,
in the order in which they were published. The bus counts the subscribers of whom it has not noticed
that they left, which it does at the next message. This is what a run has to come to (`FansOut`),
said of the steps that were taken and of what they answered.

For the broadcast bus it comes of an invariant that every step keeps (`BroadcastBus.Tracks`). At
each subscription the invariant rests on one law: what a step takes out of the queue and what is in
it afterwards are what was in it and what the step publishes (`Subscription.readBy_append_after`).
-/

namespace Quarry

/-! ## Runs -/

/-- What can be done with a bus. The subscriptions are named by their numbers, in the order in which
they were made. -/
inductive BusStep (μ : Type) where
  | subscribe
  | publish (message : μ)
  | leave (index : Nat)
  | tryReceive (index : Nat)
  | drain (index : Nat)

/-- What a step answers. -/
inductive BusAnswer (μ : Type) where
  | done
  | published (outcome : Except String Unit)
  | received (message : Option μ)
  | drained (messages : List μ)

namespace BusStep

variable {μ : Type}

/-- Whether the step makes a subscription. -/
def isSubscription : BusStep μ → Bool
  | .subscribe => true
  | _ => false

/-- The message that the step publishes, if it does. -/
def message? : BusStep μ → Option μ
  | .publish message => some message
  | _ => none

/-- The subscription that the step reads from, if it does. -/
def source? : BusStep μ → Option Nat
  | .tryReceive index => some index
  | .drain index => some index
  | _ => none

end BusStep

/-- The messages in an answer. -/
def BusAnswer.messages {μ : Type} : BusAnswer μ → List μ
  | .received message => message.toList
  | .drained messages => messages
  | _ => []

/-- What the broadcast bus `b` answers to a step, and the bus afterwards. -/
def BroadcastBus.perform {μ : Type} (b : BroadcastBus μ) :
    BusStep μ → BusAnswer μ × BroadcastBus μ
  | .subscribe => (.done, b.subscribe)
  | .publish message =>
    (.published (EventBus.publish b message).1, (EventBus.publish b message).2)
  | .leave index => (.done, b.leave index)
  | .tryReceive index =>
    (.received (b.receive .none index).1.toOption, (b.receive .none index).2)
  | .drain index => (.drained (b.drain index).1, (b.drain index).2)

/-- The steps of a run with their answers, the first one first. -/
abbrev BusHistory (μ : Type) := List (BusStep μ × BusAnswer μ)

/-- Takes one step after the other by `perform`: their history, and the bus afterwards. -/
def runSteps {β μ : Type} (perform : β → BusStep μ → BusAnswer μ × β) :
    β → List (BusStep μ) → BusHistory μ × β
  | b, [] => ([], b)
  | b, step :: rest =>
    ((step, (perform b step).1) :: (runSteps perform (perform b step).2 rest).1,
      (runSteps perform (perform b step).2 rest).2)

/-! ## What a run has to come to -/

section Requirements

variable {μ : Type}

/-- The number of subscriptions that were made in `steps`. They are counted from zero. -/
def subscriptionsMade (steps : List (BusStep μ)) : Nat :=
  steps.countP BusStep.isSubscription

/-- The messages that were published after the subscription of a number was made. -/
def publishedSince : Nat → List (BusStep μ) → List μ
  | _, [] => []
  | 0, .subscribe :: rest => rest.filterMap BusStep.message?
  | index + 1, .subscribe :: rest => publishedSince index rest
  | index, _ :: rest => publishedSince index rest

/-- The messages that were read from the subscription `index`, by one or all at once. -/
def messagesRead (index : Nat) (history : BusHistory μ) : List μ :=
  history.flatMap fun entry => if entry.1.source? = some index then entry.2.messages else []

/-- At some point a step was taken that, with the steps before it, has the property `p`. -/
def Happened (p : List (BusStep μ) → BusStep μ → Prop) (steps : List (BusStep μ)) : Prop :=
  ∃ before step after, steps = before ++ step :: after ∧ p before step

/-- The subscriber `index` has left. -/
def HasLeft (index : Nat) : List (BusStep μ) → Prop :=
  Happened fun before step => step = .leave index ∧ index < subscriptionsMade before

/-- A message was published after the subscriber `index` had left. -/
def IsNoticed (index : Nat) : List (BusStep μ) → Prop :=
  Happened fun before step => (∃ message, step = .publish message) ∧ HasLeft index before

/-- What a run of a bus has to come to that starts without subscriptions. Each message is published.
A subscriber who is still there has got, or has yet to read from `queue?`, just the messages since
the subscription, in their order. The `count` is of the subscribers but for those who left before a
message. -/
structure FansOut (steps : List (BusStep μ)) (history : BusHistory μ)
    (queue? : Nat → Option (List μ)) (count : Nat) : Prop where
  taken : history.map Prod.fst = steps
  published : ∀ message answer, (.publish message, answer) ∈ history → answer = .published (.ok ())
  exact : ∀ index, index < subscriptionsMade steps → ¬ HasLeft index steps →
    ∃ queue, queue? index = some queue ∧
      messagesRead index history ++ queue = publishedSince index steps
  counted : count = {index | index < subscriptionsMade steps ∧ ¬ IsNoticed index steps}.ncard

/-! ## One more step -/

/-- A run with a further step is the run before it and then this step. -/
theorem runSteps_concat {β : Type} (perform : β → BusStep μ → BusAnswer μ × β) (b : β)
    (steps : List (BusStep μ)) (step : BusStep μ) :
    runSteps perform b (steps ++ [step]) =
      ((runSteps perform b steps).1 ++ [(step, (perform (runSteps perform b steps).2 step).1)],
        (perform (runSteps perform b steps).2 step).2) := by
  induction steps generalizing b with
  | nil => rfl
  | cons first rest ih => rw [List.cons_append, runSteps, ih, runSteps, List.cons_append]

theorem map_fst_runSteps {β : Type} (perform : β → BusStep μ → BusAnswer μ × β) (b : β)
    (steps : List (BusStep μ)) : (runSteps perform b steps).1.map Prod.fst = steps := by
  induction steps generalizing b with
  | nil => rfl
  | cons step rest ih => rw [runSteps, List.map_cons, ih]

/-- If `perform` publishes without fail, each message in a history was published. -/
theorem answer_of_publish {β : Type} {perform : β → BusStep μ → BusAnswer μ × β}
    (h : ∀ b message, (perform b (.publish message)).1 = .published (.ok ())) {b : β}
    {steps : List (BusStep μ)} {message : μ} {answer : BusAnswer μ}
    (hmem : (.publish message, answer) ∈ (runSteps perform b steps).1) :
    answer = .published (.ok ()) := by
  induction steps generalizing b with
  | nil => cases hmem
  | cons step rest ih =>
    rcases List.mem_cons.mp hmem with heq | hrest
    · obtain ⟨rfl, rfl⟩ := Prod.mk.inj heq
      exact h b message
    · exact ih hrest

theorem subscriptionsMade_concat (steps : List (BusStep μ)) (step : BusStep μ) :
    subscriptionsMade (steps ++ [step]) =
      subscriptionsMade steps + if step.isSubscription then 1 else 0 := by
  rw [subscriptionsMade, List.countP_append, List.countP_singleton]
  rfl

theorem publishedSince_concat (index : Nat) (steps : List (BusStep μ)) (step : BusStep μ) :
    publishedSince index (steps ++ [step]) =
      publishedSince index steps ++
        if index < subscriptionsMade steps then step.message?.toList else [] := by
  -- A subscription that is passed takes one off the index, so the induction is for every index.
  induction steps generalizing index with
  | nil => cases index <;> cases step <;> rfl
  | cons first rest ih =>
    cases first with
    | subscribe =>
      have hmade : subscriptionsMade (.subscribe :: rest) = subscriptionsMade rest + 1 :=
        List.countP_cons_of_pos rfl
      rw [hmade]
      cases index with
      | zero =>
        rw [if_pos (Nat.succ_pos _)]
        show (rest ++ [step]).filterMap _ = rest.filterMap _ ++ _
        rw [List.filterMap_append]
        cases step <;> rfl
      | succ index =>
        simp only [Nat.add_lt_add_iff_right]
        exact ih index
    | _ => cases index <;> exact ih _

/-- A further entry adds what was read from the subscription `index`, if it was. -/
theorem messagesRead_concat (index : Nat) (history : BusHistory μ)
    (entry : BusStep μ × BusAnswer μ) :
    messagesRead index (history ++ [entry]) =
      messagesRead index history ++
        if entry.1.source? = some index then entry.2.messages else [] := by
  rw [messagesRead, List.flatMap_append, List.flatMap_singleton]
  rfl

theorem publishedSince_of_le {index : Nat} {steps : List (BusStep μ)}
    (h : subscriptionsMade steps ≤ index) : publishedSince index steps = [] := by
  induction steps using List.reverseRecOn with
  | nil => cases index <;> rfl
  | append_singleton steps step ih =>
    rw [subscriptionsMade_concat] at h
    have hle : subscriptionsMade steps ≤ index := by omega
    rw [publishedSince_concat, ih hle, if_neg (Nat.not_lt.mpr hle), List.nil_append]

/-- Something has happened with a further step if it had before or does with this step. -/
theorem happened_concat {p : List (BusStep μ) → BusStep μ → Prop} {steps : List (BusStep μ)}
    {step : BusStep μ} : Happened p (steps ++ [step]) ↔ Happened p steps ∨ p steps step := by
  constructor
  · rintro ⟨before, step', after, heq, hp⟩
    rcases List.eq_nil_or_concat after with rfl | ⟨after, last, rfl⟩
    · obtain ⟨rfl, hstep⟩ := List.append_inj' heq rfl
      cases hstep
      exact .inr hp
    · rw [List.concat_eq_append, ← List.cons_append, ← List.append_assoc] at heq
      exact .inl ⟨before, step', after, (List.append_inj' heq rfl).1, hp⟩
  · rintro (⟨before, step', after, rfl, hp⟩ | hp)
    · exact ⟨before, step', after ++ [step], by rw [List.append_assoc, List.cons_append], hp⟩
    · exact ⟨steps, step, [], rfl, hp⟩

theorem HasLeft.lt_subscriptionsMade {index : Nat} {steps : List (BusStep μ)}
    (h : HasLeft index steps) : index < subscriptionsMade steps := by
  obtain ⟨before, step, after, rfl, -, hlt⟩ := h
  rw [subscriptionsMade, List.countP_append]
  exact Nat.lt_add_right _ hlt

theorem IsNoticed.hasLeft {index : Nat} {steps : List (BusStep μ)} (h : IsNoticed index steps) :
    HasLeft index steps := by
  obtain ⟨before, step, after, rfl, -, before', step', after', rfl, hleft⟩ := h
  exact ⟨before', step', after' ++ step :: after, by rw [List.append_assoc, List.cons_append],
    hleft⟩

end Requirements

/-! ## One subscription -/

namespace Subscription

variable {μ : Type}

/-- The subscription `s` of the number `index` after a step. -/
def after (s : Subscription μ) (index : Nat) : BusStep μ → Subscription μ
  | .subscribe => s
  | .publish message => s.deliver message
  | .leave i => if i = index then s.leave else s
  | .tryReceive i => if i = index ∧ s.isActive then { s with queue := s.queue.tail } else s
  | .drain i => if i = index ∧ s.isActive then { s with queue := [] } else s

/-- The messages that a step reads from the subscription `s` of the number `index`. -/
def readBy (s : Subscription μ) (index : Nat) : BusStep μ → List μ
  | .tryReceive i => if i = index ∧ s.isActive then s.queue.take 1 else []
  | .drain i => if i = index ∧ s.isActive then s.queue else []
  | _ => []

variable {s : Subscription μ} {index : Nat} {step : BusStep μ}

theorem readBy_eq_nil (h : step.source? ≠ some index) : s.readBy index step = [] := by
  cases step with
  | tryReceive i | drain i => exact if_neg fun hread => h (congrArg some hread.1)
  | _ => rfl

/-- What is read and what is in the queue afterwards are what was in the queue and what is
published. -/
theorem readBy_append_after (hactive : s.isActive = true) (hlisted : s.isListed = true)
    (hstays : step ≠ .leave index) :
    s.readBy index step ++ (s.after index step).queue = s.queue ++ step.message?.toList := by
  cases step with
  | subscribe => exact (List.append_nil _).symm
  | publish message =>
    show (s.deliver message).queue = _
    rw [deliver, if_pos hlisted, if_pos hactive]
    rfl
  | leave i =>
    have hne : i ≠ index := fun h => hstays (congrArg BusStep.leave h)
    show (if i = index then _ else s).queue = _
    rw [if_neg hne]
    exact (List.append_nil _).symm
  | tryReceive i =>
    rw [readBy, after]
    split
    · show s.queue.take 1 ++ s.queue.tail = s.queue ++ []
      rw [List.append_nil, ← List.drop_one, List.take_append_drop]
    · exact (List.append_nil _).symm
  | drain i =>
    rw [readBy, after]
    split
    · rfl
    · exact (List.append_nil _).symm

/-- A subscriber is there after a step just if it was before and did not leave. -/
theorem isActive_after :
    (s.after index step).isActive = true ↔ s.isActive = true ∧ step ≠ .leave index := by
  cases step with
  | leave i =>
    show (if i = index then s.leave else s).isActive = true ↔ _
    split
    · next h => exact iff_of_false Bool.false_ne_true fun hand => hand.2 (congrArg _ h)
    · next h => exact (and_iff_left fun heq => h (BusStep.leave.inj heq)).symm
  | publish message =>
    have hsame : (s.deliver message).isActive = s.isActive := by
      unfold deliver
      split
      · split <;> rfl
      · rfl
    show (s.deliver message).isActive = true ↔ _
    rw [hsame, and_iff_left nofun]
  | subscribe => exact (and_iff_left nofun).symm
  | tryReceive i | drain i =>
    rw [and_iff_left nofun, after]
    split <;> rfl

/-- A subscription is struck off the list by a message after its subscriber has left. -/
theorem isListed_after : (s.after index step).isListed = true ↔
    s.isListed = true ∧ ¬ ((∃ message, step = .publish message) ∧ s.isActive = false) := by
  cases step with
  | publish message =>
    show (s.deliver message).isListed = true ↔ _
    unfold deliver
    cases hlisted : s.isListed <;> cases hactive : s.isActive <;> simp [hlisted]
  | subscribe => exact (and_iff_left fun h => nomatch h.1).symm
  | leave i | tryReceive i | drain i =>
    rw [and_iff_left (fun h => nomatch h.1), after]
    split <;> rfl

end Subscription

/-- The places of `l` where `p` holds are as many as the items that have it. -/
theorem ncard_setOf_getElem? {α : Type} (p : α → Bool) (l : List α) :
    {i : Nat | ∃ x, l[i]? = some x ∧ p x = true}.ncard = l.countP p := by
  induction l using List.reverseRecOn with
  | nil => simp
  | append_singleton l a ih =>
    have hlt {i : Nat} (h : ∃ x, l[i]? = some x ∧ p x = true) : i < l.length := by
      obtain ⟨x, hx, -⟩ := h
      exact (List.getElem?_eq_some_iff.mp hx).1
    have hplace (i : Nat) : (∃ x, (l ++ [a])[i]? = some x ∧ p x = true) ↔
        i = l.length ∧ p a = true ∨ ∃ x, l[i]? = some x ∧ p x = true := by
      rcases Nat.lt_trichotomy i l.length with h | rfl | h
      · rw [List.getElem?_append_left h, or_iff_right fun hlast => Nat.ne_of_lt h hlast.1]
      · rw [List.getElem?_concat_length, or_iff_left fun hold => Nat.lt_irrefl _ (hlt hold)]
        simp
      · have hnone : (l ++ [a])[i]? = none := by
          rw [List.getElem?_eq_none_iff, List.length_append]
          exact h
        rw [hnone]
        refine iff_of_false (fun hold => nomatch hold) ?_
        rintro (⟨rfl, -⟩ | hold)
        · exact Nat.lt_irrefl _ h
        · exact Nat.lt_asymm h (hlt hold)
    simp only [hplace, List.countP_append, List.countP_singleton, ← ih]
    by_cases ha : p a = true
    · have hfinite : {i : Nat | ∃ x, l[i]? = some x ∧ p x = true}.Finite :=
        (Finset.range l.length).finite_toSet.subset fun i hi => Finset.mem_range.mpr (hlt hi)
      simp only [ha, and_true, if_true]
      exact Set.ncard_insert_of_notMem (fun hlast => Nat.lt_irrefl _ (hlt hlast)) hfinite
    · simp [ha]

/-! ## The broadcast bus -/

namespace BroadcastBus

variable {μ : Type} {b : BroadcastBus μ} {index : Nat} {s : Subscription μ}

/-- The messages that wait in the subscription `index`, if its subscriber is there. -/
def queue? (b : BroadcastBus μ) (index : Nat) : Option (List μ) :=
  (b.active? index).map (·.queue)

theorem queue?_eq (hs : b.subscriptions[index]? = some s) :
    b.queue? index = if s.isActive then some s.queue else none := by
  rw [queue?, active?, hs, Option.filter_some]
  split <;> rfl

theorem getElem?_setQueue (hs : b.subscriptions[index]? = some s) (i : Nat) (queue : List μ) :
    (b.setQueue i queue).subscriptions[index]? =
      some (if i = index then { s with queue } else s) := by
  show (b.subscriptions.modify i _)[index]? = _
  rw [List.getElem?_modify, hs]
  split <;> rfl

/-- What is received from the subscription `i`, and what becomes of that of `index`. -/
theorem receive_spec (hs : b.subscriptions[index]? = some s) (i : Nat) :
    (b.receive .none i).2.subscriptions[index]? = some (s.after index (.tryReceive i)) ∧
      (i = index →
        (b.receive .none i).1.toOption.toList = s.readBy index (.tryReceive i)) := by
  have hqueue : (b.active? i).map Subscription.queue = b.queue? i := rfl
  rw [receive, hqueue, Subscription.after, Subscription.readBy]
  by_cases hi : i = index
  · subst hi
    rw [queue?_eq hs]
    by_cases hactive : s.isActive = true
    · have hread : i = i ∧ s.isActive = true := ⟨rfl, hactive⟩
      rw [if_pos hactive, if_pos hread, if_pos hread]
      obtain ⟨queue, isActive, isListed⟩ := s
      cases queue with
      | nil => exact ⟨hs, fun _ => rfl⟩
      | cons message rest =>
        exact ⟨(getElem?_setQueue hs i rest).trans (congrArg some (if_pos rfl)), fun _ => rfl⟩
    · have hunread : ¬ (i = i ∧ s.isActive = true) := fun h => hactive h.2
      rw [if_neg hactive, if_neg hunread, if_neg hunread]
      exact ⟨hs, fun _ => rfl⟩
  · refine ⟨?_, fun h => absurd h hi⟩
    rw [if_neg fun h => hi h.1]
    split
    · exact (getElem?_setQueue hs i _).trans (congrArg some (if_neg hi))
    · exact hs

/-- What is drained from the subscription `i`, and what becomes of that of `index`. -/
theorem drain_spec (hs : b.subscriptions[index]? = some s) (i : Nat) :
    (b.drain i).2.subscriptions[index]? = some (s.after index (.drain i)) ∧
      (i = index → (b.drain i).1 = s.readBy index (.drain i)) := by
  rw [drain, Subscription.after, Subscription.readBy]
  by_cases hi : i = index
  · subst hi
    rw [active?, hs, Option.filter_some]
    by_cases hactive : s.isActive = true
    · have hread : i = i ∧ s.isActive = true := ⟨rfl, hactive⟩
      rw [if_pos hactive, if_pos hread, if_pos hread]
      exact ⟨(getElem?_setQueue hs i []).trans (congrArg some (if_pos rfl)), fun _ => rfl⟩
    · have hunread : ¬ (i = i ∧ s.isActive = true) := fun h => hactive h.2
      rw [if_neg hactive, if_neg hunread, if_neg hunread]
      exact ⟨hs, fun _ => rfl⟩
  · refine ⟨?_, fun h => absurd h hi⟩
    rw [if_neg fun h => hi h.1]
    split
    · exact (getElem?_setQueue hs i _).trans (congrArg some (if_neg hi))
    · exact hs

/-- What a `step` does to a subscription that was made before it is what `Subscription.after` says.
-/
theorem getElem?_perform (hs : b.subscriptions[index]? = some s) (step : BusStep μ) :
    (b.perform step).2.subscriptions[index]? = some (s.after index step) := by
  cases step with
  | subscribe =>
    have hlt : index < b.subscriptions.length := (List.getElem?_eq_some_iff.mp hs).1
    show (b.subscriptions ++ _)[index]? = _
    rw [List.getElem?_append_left hlt, hs]
    rfl
  | publish message =>
    show (b.subscriptions.map _)[index]? = _
    rw [List.getElem?_map, hs]
    rfl
  | leave i =>
    show (b.subscriptions.modify i _)[index]? = _
    rw [List.getElem?_modify, hs, Subscription.after]
    split <;> rfl
  | tryReceive i => exact (receive_spec hs i).1
  | drain i => exact (drain_spec hs i).1

/-- What a `step` reads from a subscription that was made before it is what `readBy` says. -/
theorem messages_perform (hs : b.subscriptions[index]? = some s) (step : BusStep μ) :
    (if step.source? = some index then (b.perform step).1.messages else []) =
      s.readBy index step := by
  by_cases hsource : step.source? = some index
  · rw [if_pos hsource]
    cases step with
    | tryReceive i => exact (receive_spec hs i).2 (Option.some.inj hsource)
    | drain i => exact (drain_spec hs i).2 (Option.some.inj hsource)
    | _ => cases hsource
  · rw [if_neg hsource, Subscription.readBy_eq_nil hsource]

theorem messages_perform_of_none (hs : b.subscriptions[index]? = none) (step : BusStep μ) :
    (if step.source? = some index then (b.perform step).1.messages else []) = [] := by
  have hactive : b.active? index = none := by
    rw [active?, hs]
    rfl
  cases step with
  | tryReceive i =>
    split
    · next h =>
      obtain rfl := Option.some.inj h
      show (b.receive .none i).1.toOption.toList = []
      rw [receive, hactive]
      rfl
    · rfl
  | drain i =>
    split
    · next h =>
      obtain rfl := Option.some.inj h
      show (b.drain i).1 = []
      rw [drain, hactive]
    · rfl
  | _ => rfl

theorem length_perform (b : BroadcastBus μ) (step : BusStep μ) :
    (b.perform step).2.subscriptions.length =
      b.subscriptions.length + if step.isSubscription then 1 else 0 := by
  cases step with
  | subscribe => exact List.length_append
  | publish message => exact List.length_map _
  | leave i => exact List.length_modify _ _ _
  | tryReceive i =>
    show (b.receive .none i).2.subscriptions.length = _
    unfold receive
    split
    · exact List.length_modify _ _ _
    · rfl
  | drain i =>
    show (b.drain i).2.subscriptions.length = _
    unfold drain
    split
    · exact List.length_modify _ _ _
    · rfl

theorem isClosed_perform (b : BroadcastBus μ) (step : BusStep μ) :
    (b.perform step).2.isClosed = b.isClosed := by
  cases step with
  | tryReceive i =>
    show (b.receive .none i).2.isClosed = _
    unfold receive
    split <;> rfl
  | drain i =>
    show (b.drain i).2.isClosed = _
    unfold drain
    split <;> rfl
  | _ => rfl

/-- The bus `b` after `steps`, with their `history`. Subscribers are there until they leave, and
listed until the bus notices. What was read and what is in the queue is what was published, and
nothing was read from subscriptions that are not made yet. -/
structure Tracks (b : BroadcastBus μ) (steps : List (BusStep μ)) (history : BusHistory μ) : Prop where
  isOpen : b.isClosed = false
  length : b.subscriptions.length = subscriptionsMade steps
  active : ∀ index s, b.subscriptions[index]? = some s →
    (s.isActive = true ↔ ¬ HasLeft index steps)
  listed : ∀ index s, b.subscriptions[index]? = some s →
    (s.isListed = true ↔ ¬ IsNoticed index steps)
  exact : ∀ index s, b.subscriptions[index]? = some s → s.isActive = true →
    messagesRead index history ++ s.queue = publishedSince index steps
  unread : ∀ index, b.subscriptions[index]? = none → messagesRead index history = []

theorem tracks_empty : (empty : BroadcastBus μ).Tracks [] [] where
  isOpen := rfl
  length := rfl
  active _ _ h := nomatch h
  listed _ _ h := nomatch h
  exact _ _ h := nomatch h
  unread _ _ := rfl

/-- A subscription after a `step` was there before, or the step made it. -/
theorem subscription_after_perform (hopen : b.isClosed = false) {step : BusStep μ}
    (hs : (b.perform step).2.subscriptions[index]? = some s) :
    (∃ old, b.subscriptions[index]? = some old ∧ s = old.after index step) ∨
      (index = b.subscriptions.length ∧ b.subscriptions[index]? = none ∧ step = .subscribe ∧
        s = .new) := by
  cases hold : b.subscriptions[index]? with
  | some old =>
    rw [getElem?_perform hold] at hs
    exact .inl ⟨old, rfl, (Option.some.inj hs).symm⟩
  | none =>
    have hlt := (List.getElem?_eq_some_iff.mp hs).1
    have hle := List.getElem?_eq_none_iff.mp hold
    rw [length_perform] at hlt
    cases step with
    | subscribe =>
      obtain rfl : index = b.subscriptions.length := Nat.le_antisymm (Nat.le_of_lt_succ hlt) hle
      have hnew : (b.subscriptions ++ [if b.isClosed then .void else .new])[
          b.subscriptions.length]? = some s := hs
      rw [List.getElem?_concat_length, hopen] at hnew
      exact .inr ⟨rfl, rfl, rfl, (Option.some.inj hnew).symm⟩
    | _ => exact absurd hlt (Nat.not_lt.mpr hle)

variable {steps : List (BusStep μ)} {history : BusHistory μ}

theorem Tracks.isListed (h : b.Tracks steps history) (hs : b.subscriptions[index]? = some s)
    (hactive : s.isActive = true) : s.isListed = true :=
  (h.listed index s hs).mpr fun hnoticed => (h.active index s hs).mp hactive hnoticed.hasLeft

theorem Tracks.lt_subscriptionsMade (h : b.Tracks steps history)
    (hs : b.subscriptions[index]? = some s) : index < subscriptionsMade steps := by
  rw [← h.length]
  exact (List.getElem?_eq_some_iff.mp hs).1

theorem Tracks.not_hasLeft (h : b.Tracks steps history)
    (hs : b.subscriptions[index]? = none) : ¬ HasLeft index steps := by
  intro hleft
  have hlt := hleft.lt_subscriptionsMade
  rw [← h.length] at hlt
  exact absurd hlt (Nat.not_lt.mpr (List.getElem?_eq_none_iff.mp hs))

/-- Every `step` preserves that a bus tracks its history. -/
theorem Tracks.perform (h : b.Tracks steps history) (step : BusStep μ) :
    (b.perform step).2.Tracks (steps ++ [step]) (history ++ [(step, (b.perform step).1)]) where
  isOpen := (isClosed_perform b step).trans h.isOpen
  length := by rw [length_perform, subscriptionsMade_concat, h.length]
  active index s hs := by
    rw [HasLeft, happened_concat, not_or]
    rcases subscription_after_perform h.isOpen hs with ⟨old, hold, rfl⟩ | ⟨-, hnone, rfl, rfl⟩
    · rw [Subscription.isActive_after, h.active index old hold,
        and_iff_left (h.lt_subscriptionsMade hold)]
      exact Iff.rfl
    · exact iff_of_true rfl ⟨h.not_hasLeft hnone, nofun⟩
  listed index s hs := by
    rw [IsNoticed, happened_concat, not_or]
    rcases subscription_after_perform h.isOpen hs with ⟨old, hold, rfl⟩ | ⟨-, hnone, rfl, rfl⟩
    · have hgone : old.isActive = false ↔ HasLeft index steps := by
        rw [← Bool.not_eq_true, h.active index old hold, not_not]
      rw [Subscription.isListed_after, h.listed index old hold, hgone]
      exact Iff.rfl
    · exact iff_of_true rfl
        ⟨fun hnoticed => h.not_hasLeft hnone (IsNoticed.hasLeft hnoticed), fun hand => nomatch hand.1⟩
  exact index s hs hactive := by
    rw [messagesRead_concat, publishedSince_concat]
    rcases subscription_after_perform h.isOpen hs with ⟨old, hold, rfl⟩ | ⟨-, hnone, rfl, rfl⟩
    · obtain ⟨hwas, hstays⟩ := Subscription.isActive_after.mp hactive
      rw [messages_perform hold, if_pos (h.lt_subscriptionsMade hold), List.append_assoc,
        Subscription.readBy_append_after hwas (h.isListed hold hwas) hstays, ← List.append_assoc,
        h.exact index old hold hwas]
    · have hle : subscriptionsMade steps ≤ index := by
        rw [← h.length]
        exact List.getElem?_eq_none_iff.mp hnone
      rw [messages_perform_of_none hnone, h.unread index hnone, publishedSince_of_le hle,
        if_neg (Nat.not_lt.mpr hle)]
      rfl
  unread index hnone := by
    have hbefore : b.subscriptions[index]? = none := by
      rw [List.getElem?_eq_none_iff] at hnone ⊢
      rw [length_perform] at hnone
      omega
    rw [messagesRead_concat, h.unread index hbefore, messages_perform_of_none hbefore]
    rfl

/-- A run from the empty bus tracks its history. -/
theorem tracks_runSteps (steps : List (BusStep μ)) :
    (runSteps perform (empty : BroadcastBus μ) steps).2.Tracks steps
      (runSteps perform empty steps).1 := by
  induction steps using List.reverseRecOn with
  | nil => exact tracks_empty
  | append_singleton steps step ih =>
    rw [runSteps_concat]
    exact ih.perform step

/-- What `Tracks` says of a run from the empty bus is that it `FansOut`. -/
theorem fansOut_runSteps (steps : List (BusStep μ)) :
    FansOut steps (runSteps perform (empty : BroadcastBus μ) steps).1
      (runSteps perform empty steps).2.queue? (runSteps perform empty steps).2.subscriberCount := by
  have htracks := tracks_runSteps steps
  have hcounted : {index | index < subscriptionsMade steps ∧ ¬ IsNoticed index steps} =
      {index | ∃ s, (runSteps perform (empty : BroadcastBus μ) steps).2.subscriptions[index]? =
        some s ∧ s.isListed = true} := by
    ext index
    rw [Set.mem_ofPred_eq, Set.mem_ofPred_eq, ← htracks.length]
    constructor
    · rintro ⟨hlt, hunnoticed⟩
      have hs := List.getElem?_eq_getElem hlt
      exact ⟨_, hs, (htracks.listed index _ hs).mpr hunnoticed⟩
    · rintro ⟨s, hs, hlisted⟩
      exact ⟨(List.getElem?_eq_some_iff.mp hs).1, (htracks.listed index s hs).mp hlisted⟩
  refine ⟨map_fst_runSteps _ _ _, fun message answer => answer_of_publish fun _ _ => rfl, ?_, ?_⟩
  · intro index hlt hthere
    rw [← htracks.length] at hlt
    have hs := List.getElem?_eq_getElem hlt
    have hactive := (htracks.active index _ hs).mpr hthere
    refine ⟨_, ?_, htracks.exact index _ hs hactive⟩
    rw [queue?_eq hs, if_pos hactive]
  · rw [hcounted, ncard_setOf_getElem?]
    rfl

end BroadcastBus

end Quarry
