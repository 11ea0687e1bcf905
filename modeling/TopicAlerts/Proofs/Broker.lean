import Mathlib.Data.List.Nodup
import Mathlib.Tactic.SplitIfs
import TopicAlerts.Broker

/-!
# What the broker remembers

Seen from its subscribers a broker is a ledger: for each stream that was ever made, in the order in
which they were made, its topic and what became of it. Publishing, receiving, disconnecting and
refusing leave the ledger as it is. Subscribing adds a line at its end, closing and dropping change
one line.

`Broker.Orderly` relates the members of the topics to the ledger: the members of a topic are
different streams of that topic, and all of one group. It is kept by every operation.
-/

namespace TopicAlerts.Broker

/-- For each stream its topic and what became of it. -/
def ledger (broker : Broker) : List (String × StreamState) :=
  broker.streams.map fun s => (s.topic, s.state)

/-- Whether a line of the ledger is about a stream in this state. -/
def isIn (state : StreamState) (line : String × StreamState) : Bool := line.2 == state

/-- The members of the topics fit the ledger. -/
structure Orderly (group : String) (broker : Broker) : Prop where
  /-- No stream is a member twice. -/
  nodup : ∀ {topic state}, broker.topic? topic = some state → (state.members.map (·.stream)).Nodup
  /-- All members are of this group. -/
  group_eq : ∀ {topic state}, broker.topic? topic = some state →
    ∀ member ∈ state.members, member.group = group
  /-- The stream of a member is one of this topic. -/
  topic_eq : ∀ {topic state}, broker.topic? topic = some state →
    ∀ member ∈ state.members, ∃ became, broker.ledger[member.stream]? = some (topic, became)

variable {broker : Broker} {group topic other : String} {stream : Nat}

/-! ## The topics -/

theorem topic?_setTopic_self (state : TopicState) :
    (broker.setTopic topic state).topic? topic = some state := by
  unfold topic? setTopic
  induction broker.topics with
  | nil => simp [putIn]
  | cons entry rest ih =>
    obtain ⟨key, old⟩ := entry
    rw [putIn]
    split_ifs with same
    · simp
    · have differs : (topic == key) = false := beq_eq_false_iff_ne.mpr (Ne.symm same)
      simpa [List.lookup_cons, differs] using ih

theorem topic?_setTopic_of_ne (state : TopicState) (h : other ≠ topic) :
    (broker.setTopic topic state).topic? other = broker.topic? other := by
  unfold topic? setTopic
  induction broker.topics with
  | nil =>
    have differs : (other == topic) = false := by simpa using h
    simp [putIn, List.lookup_cons, differs]
  | cons entry rest ih =>
    obtain ⟨key, old⟩ := entry
    rw [putIn]
    split_ifs with same
    · subst same
      have differs : (other == key) = false := by simpa using h
      simp [List.lookup_cons, differs]
    · cases found : other == key
      · simpa [List.lookup_cons, found] using ih
      · simp [List.lookup_cons, found]

theorem topic?_disconnect :
    (broker.disconnect topic).topic? other =
      if other = topic then none else broker.topic? other := by
  unfold topic? disconnect
  induction broker.topics with
  | nil => simp
  | cons entry rest ih =>
    obtain ⟨key, old⟩ := entry
    by_cases same : key = topic
    · subst same
      rw [List.filter_cons_of_neg (by simp), ih]
      split_ifs with h
      · rfl
      · have differs : (other == key) = false := by simpa using h
        simp [List.lookup_cons, differs]
    · rw [List.filter_cons_of_pos (by simpa using same)]
      by_cases found : other = key
      · subst found
        simp [same]
      · have differs : (other == key) = false := by simpa using found
        simpa [List.lookup_cons, differs] using ih

/-! ## The ledger -/

@[simp] theorem ledger_setTopic (state : TopicState) :
    (broker.setTopic topic state).ledger = broker.ledger := rfl

@[simp] theorem ledger_disconnect : (broker.disconnect topic).ledger = broker.ledger := rfl

@[simp] theorem ledger_reject : (broker.reject topic).ledger = broker.ledger := rfl

@[simp] theorem ledger_accept : (broker.accept topic).ledger = broker.ledger := rfl

theorem length_ledger : broker.ledger.length = broker.streams.length := List.length_map _

theorem ledger_getElem? :
    broker.ledger[stream]? = (broker.streams[stream]?).map fun s => (s.topic, s.state) :=
  List.getElem?_map

theorem isOpen_iff : broker.isOpen stream = true ↔
    ∃ topic, broker.ledger[stream]? = some (topic, .opened) := by
  rw [isOpen, ledger_getElem?]
  cases broker.streams[stream]? with
  | none => simp
  | some s => simp

/-- A change that keeps the topic and the state of a stream does not show in the ledger. -/
theorem ledger_modifyStream_of_kept {change : Stream → Stream}
    (kept : ∀ s, ((change s).topic, (change s).state) = (s.topic, s.state)) :
    (broker.modifyStream stream change).ledger = broker.ledger := by
  unfold ledger modifyStream
  apply List.ext_getElem? 
  intro n
  simp only [List.getElem?_map, List.getElem?_modify]
  split_ifs <;> cases broker.streams[n]? <;> simp_all

/-- A change that keeps the topic and sets the state changes the line of the stream. -/
theorem ledger_modifyStream {change : Stream → Stream} {became was : StreamState}
    (sets : ∀ s, ((change s).topic, (change s).state) = (s.topic, became))
    (line : broker.ledger[stream]? = some (topic, was)) :
    (broker.modifyStream stream change).ledger = broker.ledger.set stream (topic, became) := by
  unfold ledger modifyStream at *
  apply List.ext_getElem?
  intro n
  simp only [List.getElem?_map, List.getElem?_modify, List.getElem?_set, List.length_map] at *
  by_cases same : stream = n
  · subst same
    cases found : broker.streams[stream]? with
    | none => simp [found] at line
    | some s =>
      have here : stream < broker.streams.length := (List.getElem?_eq_some_iff.mp found).1
      simp_all
  · simp [same]

/-- Handing a message to some streams changes their queues only. -/
theorem foldl_modifyStream {change : Stream → Stream}
    (kept : ∀ s, ((change s).topic, (change s).state) = (s.topic, s.state))
    (receivers : List Member) :
    ∃ streams, receivers.foldl (fun b member => b.modifyStream member.stream change) broker =
        { broker with streams } ∧
      (streams.map fun s => (s.topic, s.state)) = broker.ledger := by
  induction receivers generalizing broker with
  | nil => exact ⟨broker.streams, rfl, rfl⟩
  | cons member rest ih =>
    obtain ⟨streams, folded, lines⟩ := @ih (broker.modifyStream member.stream change)
    exact ⟨streams, folded, lines.trans (ledger_modifyStream_of_kept kept)⟩

/-- Publishing does nothing on a topic without a state. Otherwise it forgets the members that are
not open, moves the cursor and changes the queues of some streams. -/
theorem publish_cases (payload : List UInt8) :
    (broker.topic? topic = none ∧ (broker.publish topic payload).2 = broker) ∨
      ∃ state streams, broker.topic? topic = some state ∧
        (streams.map fun s => (s.topic, s.state)) = broker.ledger ∧
        (broker.publish topic payload).2 =
          { broker.setTopic topic ⟨state.members.filter fun member =>
              broker.isOpen member.stream, state.cursor + 1⟩ with streams } := by
  unfold publish
  split
  next nothing => exact .inl ⟨nothing, rfl⟩
  next state found =>
    obtain ⟨streams, folded, lines⟩ := @foldl_modifyStream (broker.setTopic topic
        ⟨state.members.filter fun member => broker.isOpen member.stream, state.cursor + 1⟩)
      (fun s => { s with queue := s.queue ++ [⟨topic, payload⟩] }) (fun _ => rfl) _
    exact .inr ⟨state, streams, found, lines, folded⟩

theorem ledger_publish (payload : List UInt8) :
    (broker.publish topic payload).2.ledger = broker.ledger := by
  rcases @publish_cases broker topic payload with
    ⟨-, same⟩ | ⟨state, streams, -, lines, published⟩
  · rw [same]
  · rw [published]
    exact lines

/-- Receiving changes the streams only, and not their ledger. -/
theorem receive_cases :
    ∃ streams, (streams.map fun s => (s.topic, s.state)) = broker.ledger ∧
      (broker.receive stream).2 = { broker with streams } := by
  unfold receive
  split
  · exact ⟨broker.streams, rfl, rfl⟩
  · split
    next message queue _ =>
      exact ⟨_, @ledger_modifyStream_of_kept broker stream (fun s => { s with queue })
        fun _ => rfl, rfl⟩
    · exact ⟨broker.streams, rfl, rfl⟩

/-- Asking a stream for a message changes nothing unless it gives one. -/
theorem eq_of_receive {received : Received} {after : Broker}
    (asked : broker.receive stream = (received, after))
    (noMessage : ∀ message, received ≠ .message message) : after = broker := by
  unfold receive at asked
  split at asked
  · cases asked
    rfl
  · split at asked
    · cases asked
      exact absurd rfl (noMessage _)
    · cases asked
      rfl

theorem ledger_drop {was : StreamState} (line : broker.ledger[stream]? = some (topic, was)) :
    (broker.drop stream).ledger = broker.ledger.set stream (topic, .dropped) :=
  ledger_modifyStream (fun _ => rfl) line

theorem topic?_close {s : Stream} (found : broker.streams[stream]? = some s) :
    (broker.close stream).topic? other =
      if other = s.topic then (broker.topic? other).map fun state =>
        { state with members := state.members.filter (·.stream != stream) }
      else broker.topic? other := by
  unfold close
  rw [found]
  dsimp only
  split
  next state listed =>
    split_ifs with same
    · subst same
      have before : broker.topic? s.topic = some state := listed
      exact (topic?_setTopic_self _).trans (by rw [before]; rfl)
    · exact topic?_setTopic_of_ne _ same
  next listed =>
    have before : broker.topic? s.topic = none := listed
    split_ifs with same
    · subst same
      exact before.trans (by rw [before]; rfl)
    · rfl

theorem close_streams : (broker.close stream).streams =
    (broker.modifyStream stream fun s => { s with state := .closed }).streams := by
  unfold close
  split
  next none =>
    refine List.ext_getElem? fun n => ?_
    rw [modifyStream, List.getElem?_modify]
    split_ifs with same
    · rw [← same, none]
      rfl
    · exact (id_map _).symm
  · dsimp only
    split <;> rfl

theorem close_asked : (broker.close stream).asked = broker.asked := by
  unfold close
  split
  · rfl
  · dsimp only
    split <;> rfl

theorem close_rejected : (broker.close stream).rejected = broker.rejected := by
  unfold close
  split
  · rfl
  · dsimp only
    split <;> rfl

/-- Closing a stream changes its line, takes it from the members of its topic, and is counted. -/
theorem close_cases {was : StreamState} (line : broker.ledger[stream]? = some (topic, was)) :
    (broker.close stream).ledger = broker.ledger.set stream (topic, .closed) ∧
      (broker.close stream).closeCalls = broker.closeCalls + 1 ∧
      ∀ other state, (broker.close stream).topic? other = some state →
        ∃ before, broker.topic? other = some before ∧ state.members.Sublist before.members := by
  refine ⟨?_, ?_, ?_⟩
  · have lines : (broker.modifyStream stream fun s => { s with state := .closed }).ledger = _ :=
      ledger_modifyStream (fun _ => rfl) line
    rw [← lines, ledger, close_streams, ledger]
  · rw [ledger_getElem?] at line
    unfold close
    split
    next none => simp [none] at line
    · dsimp only
      split <;> rfl
  · intro other state after
    rw [ledger_getElem?] at line
    cases found : broker.streams[stream]? with
    | none => simp [found] at line
    | some s =>
      rw [topic?_close found] at after
      split_ifs at after
      · obtain ⟨before, listed, rfl⟩ := Option.map_eq_some_iff.mp after
        exact ⟨before, listed, List.filter_sublist⟩
      · exact ⟨state, after, List.Sublist.refl _⟩

theorem subscribe_of_rejected (refused : topic ∈ broker.rejected) :
    broker.subscribe topic group = (none, { broker with asked := broker.asked ++ [topic] }) := by
  simp [subscribe, refused]

section Accepted

variable (accepted : topic ∉ broker.rejected)

include accepted

theorem subscribe_stream : (broker.subscribe topic group).1 = some broker.streams.length := by
  simp [subscribe, accepted]

theorem subscribe_asked : (broker.subscribe topic group).2.asked = broker.asked ++ [topic] := by
  simp [subscribe, accepted, setTopic]

theorem subscribe_closeCalls :
    (broker.subscribe topic group).2.closeCalls = broker.closeCalls := by
  simp [subscribe, accepted, setTopic]

theorem subscribe_ledger :
    (broker.subscribe topic group).2.ledger = broker.ledger ++ [(topic, .opened)] := by
  simp [subscribe, accepted, setTopic, ledger]

/-- A line of the ledger is an old one or that of the new stream. -/
theorem subscribe_line {n : Nat} {line : String × StreamState} :
    (broker.subscribe topic group).2.ledger[n]? = some line ↔
      broker.ledger[n]? = some line ∨ (n = broker.streams.length ∧ line = (topic, .opened)) := by
  rw [subscribe_ledger accepted, ← length_ledger, List.getElem?_append]
  split_ifs with old
  · simp [Nat.ne_of_lt old]
  · rw [List.getElem?_eq_none (Nat.le_of_not_lt old)]
    rcases Nat.lt_or_eq_of_le (Nat.le_of_not_lt old) with beyond | rfl
    · have past : [(topic, StreamState.opened)].length ≤ n - broker.ledger.length :=
        Nat.le_sub_of_add_le' beyond
      simp [List.getElem?_eq_none past, Nat.ne_of_gt beyond]
    · simp [eq_comm]

/-- The stream of an accepted subscription becomes the last member of the topic. -/
theorem subscribe_topic?_self :
    ∃ cursor, (broker.subscribe topic group).2.topic? topic =
      some ⟨((broker.topic? topic).elim [] (·.members)) ++ [⟨broker.streams.length, group⟩],
        cursor⟩ := by
  refine ⟨((broker.topic? topic).getD ⟨[], 0⟩).cursor, ?_⟩
  simp only [subscribe, List.contains_eq_mem, accepted, decide_false, Bool.false_eq_true, if_false]
  rw [topic?_setTopic_self]
  change some (TopicState.mk (((broker.topic? topic).getD ⟨[], 0⟩).members ++ _)
    ((broker.topic? topic).getD ⟨[], 0⟩).cursor) = _
  cases broker.topic? topic <;> rfl

theorem subscribe_topic?_of_ne (h : other ≠ topic) :
    (broker.subscribe topic group).2.topic? other = broker.topic? other := by
  simp only [subscribe, List.contains_eq_mem, accepted, decide_false, Bool.false_eq_true, if_false]
  rw [topic?_setTopic_of_ne _ h]
  rfl

/-- The members after an accepted subscription are those before and the new one. -/
theorem subscribe_members {state : TopicState}
    (found : (broker.subscribe topic group).2.topic? other = some state) {member : Member}
    (inside : member ∈ state.members) :
    (∃ before, broker.topic? other = some before ∧ member ∈ before.members) ∨
      (other = topic ∧ member = ⟨broker.streams.length, group⟩) := by
  by_cases same : other = topic
  · subst same
    obtain ⟨cursor, listed⟩ := @subscribe_topic?_self broker group other accepted
    obtain rfl := Option.some.inj (listed.symm.trans found)
    rcases List.mem_append.mp inside with old | new
    · cases before : broker.topic? other with
      | none => simp [before] at old
      | some state => exact .inl ⟨state, rfl, by simpa [before] using old⟩
    · exact .inr ⟨rfl, List.mem_singleton.mp new⟩
  · exact .inl ⟨state, (subscribe_topic?_of_ne accepted same).symm.trans found, inside⟩

end Accepted

/-! ## Members -/

/-- Members stay orderly when none is added and no stream changes its topic. -/
theorem Orderly.of_sublist {after : Broker} (orderly : broker.Orderly group)
    (members : ∀ (topic : String) (state : TopicState), after.topic? topic = some state →
      ∃ before, broker.topic? topic = some before ∧ state.members.Sublist before.members)
    (lines : ∀ (stream : Nat) (topic : String) (was : StreamState),
      broker.ledger[stream]? = some (topic, was) →
        ∃ became, after.ledger[stream]? = some (topic, became)) : after.Orderly group where
  nodup found := by
    obtain ⟨before, listed, sub⟩ := members _ _ found
    exact (orderly.nodup listed).sublist (sub.map _)
  group_eq found member inside := by
    obtain ⟨before, listed, sub⟩ := members _ _ found
    exact orderly.group_eq listed member (sub.subset inside)
  topic_eq found member inside := by
    obtain ⟨before, listed, sub⟩ := members _ _ found
    obtain ⟨was, line⟩ := orderly.topic_eq listed member (sub.subset inside)
    exact lines _ _ _ line

theorem orderly_empty : empty.Orderly group where
  nodup found := by simp [topic?, empty] at found
  group_eq found := by simp [topic?, empty] at found
  topic_eq found := by simp [topic?, empty] at found

theorem Orderly.publish (orderly : broker.Orderly group) (payload : List UInt8) :
    (broker.publish topic payload).2.Orderly group := by
  have lines : (broker.publish topic payload).2.ledger = _ := ledger_publish payload
  rcases @publish_cases broker topic payload with
    ⟨-, same⟩ | ⟨state, streams, listed, -, published⟩
  · rwa [same]
  · refine orderly.of_sublist (fun other after found => ?_) ?_
    swap
    · exact fun _ _ was line => ⟨was, by rwa [lines]⟩
    rw [published] at found
    by_cases same : other = topic
    · subst same
      obtain rfl := Option.some.inj ((topic?_setTopic_self _).symm.trans found)
      exact ⟨state, listed, List.filter_sublist⟩
    · exact ⟨after, (topic?_setTopic_of_ne _ same).symm.trans found, List.Sublist.refl _⟩

theorem Orderly.receive (orderly : broker.Orderly group) :
    (broker.receive stream).2.Orderly group := by
  obtain ⟨streams, lines, received⟩ := @receive_cases broker stream
  rw [received]
  refine orderly.of_sublist (fun _ state found => ⟨state, found, List.Sublist.refl _⟩) ?_
  exact fun _ _ was line => ⟨was, by rwa [← lines] at line⟩

theorem Orderly.disconnect (orderly : broker.Orderly group) :
    (broker.disconnect topic).Orderly group := by
  refine orderly.of_sublist (fun other state found => ?_) fun _ _ was line => ⟨was, line⟩
  rw [topic?_disconnect] at found
  split_ifs at found
  exact ⟨state, found, List.Sublist.refl _⟩

theorem Orderly.reject (orderly : broker.Orderly group) : (broker.reject topic).Orderly group :=
  ⟨orderly.nodup, orderly.group_eq, orderly.topic_eq⟩

theorem Orderly.accept (orderly : broker.Orderly group) : (broker.accept topic).Orderly group :=
  ⟨orderly.nodup, orderly.group_eq, orderly.topic_eq⟩

/-- A line is still about the same topic when the state of a stream is set. -/
theorem line_set {lines : List (String × StreamState)} {was became : StreamState}
    (line : lines[stream]? = some (topic, was)) (n : Nat) (t : String) (before : StreamState)
    (found : lines[n]? = some (t, before)) :
    ∃ after, (lines.set stream (topic, became))[n]? = some (t, after) := by
  by_cases same : stream = n
  · subst same
    have here : stream < lines.length := (List.getElem?_eq_some_iff.mp line).1
    obtain ⟨rfl, -⟩ : t = topic ∧ before = was := by simpa [found] using line
    exact ⟨became, by simp [here]⟩
  · exact ⟨before, by simp [same, found]⟩

theorem Orderly.close {was : StreamState} (orderly : broker.Orderly group)
    (line : broker.ledger[stream]? = some (topic, was)) : (broker.close stream).Orderly group := by
  obtain ⟨lines, -, members⟩ := close_cases line
  refine orderly.of_sublist members ?_
  rw [lines]
  exact line_set line

theorem Orderly.drop {was : StreamState} (orderly : broker.Orderly group)
    (line : broker.ledger[stream]? = some (topic, was)) : (broker.drop stream).Orderly group := by
  refine orderly.of_sublist (fun _ state found => ⟨state, found, List.Sublist.refl _⟩) ?_
  rw [ledger_drop line]
  exact line_set line

theorem Orderly.stream_lt {state : TopicState} (orderly : broker.Orderly group)
    (listed : broker.topic? topic = some state) {member : Member}
    (inside : member ∈ state.members) : member.stream < broker.streams.length := by
  obtain ⟨became, line⟩ := orderly.topic_eq listed member inside
  rw [← length_ledger]
  exact (List.getElem?_eq_some_iff.mp line).1

theorem Orderly.subscribe (orderly : broker.Orderly group) :
    (broker.subscribe topic group).2.Orderly group := by
  by_cases accepted : topic ∉ broker.rejected
  · have lines : (broker.subscribe topic group).2.ledger = _ := subscribe_ledger accepted
    constructor
    · intro other state found
      by_cases same : other = topic
      · subst same
        obtain ⟨cursor, listed⟩ := @subscribe_topic?_self broker group other accepted
        obtain rfl := Option.some.inj (listed.symm.trans found)
        cases before : broker.topic? other with
        | none => simp
        | some state =>
          rw [Option.elim_some, List.map_append, List.map_singleton, List.nodup_append]
          refine ⟨orderly.nodup before, List.nodup_singleton _, ?_⟩
          intro n old new fresh
          obtain ⟨member, inside, rfl⟩ := List.mem_map.mp old
          rw [List.mem_singleton.mp fresh]
          exact Nat.ne_of_lt (orderly.stream_lt before inside)
      · exact orderly.nodup ((subscribe_topic?_of_ne accepted same).symm.trans found)
    · intro other state found member inside
      rcases subscribe_members accepted found inside with ⟨before, listed, old⟩ | ⟨-, rfl⟩
      · exact orderly.group_eq listed member old
      · rfl
    · intro other state found member inside
      rw [lines]
      rcases subscribe_members accepted found inside with ⟨before, listed, old⟩ | ⟨rfl, rfl⟩
      · obtain ⟨became, line⟩ := orderly.topic_eq listed member old
        refine ⟨became, ?_⟩
        rwa [List.getElem?_append_left (List.getElem?_eq_some_iff.mp line).1]
      · refine ⟨.opened, ?_⟩
        rw [← length_ledger, List.getElem?_append_right (Nat.le_refl _)]
        simp
  · rw [subscribe_of_rejected (not_not.mp accepted)]
    exact ⟨orderly.nodup, orderly.group_eq, orderly.topic_eq⟩

/-! ## Waiting streams -/

theorem isMember_iff : broker.isMember stream topic = true ↔
    ∃ state, broker.topic? topic = some state ∧
      ∃ member ∈ state.members, member.stream = stream := by
  unfold isMember
  cases broker.topic? topic with
  | none => simp
  | some state => simp [List.any_eq_true]

/-- A stream has to wait if it is open and a member, and nothing is queued for it. -/
theorem receive_pending_iff : (broker.receive stream).1 = .pending ↔
    ∃ s, broker.streams[stream]? = some s ∧ s.queue = [] ∧ s.state = .opened ∧
      broker.isMember stream s.topic = true := by
  unfold receive
  cases found : broker.streams[stream]? with
  | none => simp
  | some s =>
    cases queue : s.queue with
    | cons message rest => simp [queue]
    | nil =>
      cases member : broker.isMember stream s.topic <;> cases state : s.state <;>
        simp [hasEnded, found, queue, member, state]

/-- Closing a stream does not wake another one. -/
theorem pending_close {n : Nat} (h : n ≠ stream) (pending : (broker.receive n).1 = .pending) :
    ((broker.close stream).receive n).1 = .pending := by
  obtain ⟨s, found, queue, opened, member⟩ := receive_pending_iff.mp pending
  have streams : (broker.close stream).streams[n]? = some s := by
    rw [close_streams, modifyStream, List.getElem?_modify_ne _ _ h.symm, found]
  refine receive_pending_iff.mpr ⟨s, streams, queue, opened, ?_⟩
  obtain ⟨state, listed, m, inside, rfl⟩ := isMember_iff.mp member
  cases closing : broker.streams[stream]? with
  | none =>
    unfold close
    rwa [closing]
  | some closed =>
    rw [isMember_iff, topic?_close closing]
    split_ifs with same
    · rw [listed]
      exact ⟨_, rfl, m, List.mem_filter.mpr ⟨inside, by simpa using h⟩, rfl⟩
    · exact ⟨state, listed, m, inside, rfl⟩

/-- Taking a message from a stream does not wake another one. -/
theorem pending_receive {n : Nat} (h : n ≠ stream) (pending : (broker.receive n).1 = .pending) :
    ((broker.receive stream).2.receive n).1 = .pending := by
  obtain ⟨s, found, queue, opened, member⟩ := receive_pending_iff.mp pending
  have same : (broker.receive stream).2.streams[n]? = some s := by
    unfold receive
    split
    · exact found
    · split
      · rw [modifyStream, List.getElem?_modify_ne _ _ h.symm, found]
      · exact found
  obtain ⟨streams, -, received⟩ := @receive_cases broker stream
  refine receive_pending_iff.mpr ⟨s, same, queue, opened, ?_⟩
  rw [received]
  exact member

theorem subscribe_rejected : (broker.subscribe topic group).2.rejected = broker.rejected := by
  unfold subscribe
  dsimp only
  split_ifs <;> rfl

theorem subscribe_streams (accepted : topic ∉ broker.rejected) :
    (broker.subscribe topic group).2.streams = broker.streams ++ [⟨topic, [], .opened⟩] := by
  simp [subscribe, accepted, setTopic]

theorem pending_subscribe {n : Nat} (accepted : topic ∉ broker.rejected)
    (pending : (broker.receive n).1 = .pending) :
    ((broker.subscribe topic group).2.receive n).1 = .pending := by
  obtain ⟨s, found, queue, opened, member⟩ := receive_pending_iff.mp pending
  refine receive_pending_iff.mpr ⟨s, ?_, queue, opened, ?_⟩
  · rw [subscribe_streams accepted,
      List.getElem?_append_left (List.getElem?_eq_some_iff.mp found).1, found]
  · obtain ⟨state, listed, m, inside, rfl⟩ := isMember_iff.mp member
    rw [isMember_iff]
    by_cases same : s.topic = topic
    · subst same
      obtain ⟨cursor, after⟩ := @subscribe_topic?_self broker group s.topic accepted
      refine ⟨_, after, m, List.mem_append_left _ ?_, rfl⟩
      rwa [listed]
    · exact ⟨state, (subscribe_topic?_of_ne accepted same).trans listed, m, inside, rfl⟩

theorem pending_subscribe_new (accepted : topic ∉ broker.rejected) :
    ((broker.subscribe topic group).2.receive broker.streams.length).1 = .pending := by
  refine receive_pending_iff.mpr ⟨⟨topic, [], .opened⟩, ?_, rfl, rfl, ?_⟩
  · rw [subscribe_streams accepted, List.getElem?_append_right (Nat.le_refl _), Nat.sub_self]
    rfl
  · obtain ⟨cursor, after⟩ := @subscribe_topic?_self broker group topic accepted
    exact isMember_iff.mpr ⟨_, after, _, List.mem_append_right _ (List.mem_singleton.mpr rfl), rfl⟩

/-! ## Several subscriptions and closes -/

section Several

variable {topics : List String} {streams : List Nat}

/-- The broker after subscriptions to some topics were asked for, one after the other. -/
def askFor (broker : Broker) (group : String) (topics : List String) : Broker :=
  topics.foldl (fun broker topic => (broker.subscribe topic group).2) broker

theorem askFor_append {later : List String} : broker.askFor group (topics ++ later) =
    (broker.askFor group topics).askFor group later := List.foldl_append

theorem askFor_cons : broker.askFor group (topic :: topics) =
    (broker.subscribe topic group).2.askFor group topics := rfl

theorem asked_subscribe : (broker.subscribe topic group).2.asked = broker.asked ++ [topic] := by
  by_cases refused : topic ∈ broker.rejected
  · rw [subscribe_of_rejected refused]
  · exact subscribe_asked refused

theorem asked_askFor : (broker.askFor group topics).asked = broker.asked ++ topics := by
  induction topics generalizing broker with
  | nil => exact (List.append_nil _).symm
  | cons topic rest ih =>
    rw [askFor_cons, ih, asked_subscribe, List.append_assoc,
      List.singleton_append]

theorem rejected_askFor : (broker.askFor group topics).rejected = broker.rejected := by
  induction topics generalizing broker with
  | nil => rfl
  | cons topic rest ih => rw [askFor_cons, ih, subscribe_rejected]

theorem closeCalls_askFor : (broker.askFor group topics).closeCalls = broker.closeCalls := by
  induction topics generalizing broker with
  | nil => rfl
  | cons topic rest ih =>
    rw [askFor_cons, ih]
    by_cases refused : topic ∈ broker.rejected
    · rw [subscribe_of_rejected refused]
    · exact subscribe_closeCalls refused

/-- The streams that there are stay as they are. -/
theorem streams_askFor {n : Nat} (old : n < broker.streams.length) :
    (broker.askFor group topics).streams[n]? = broker.streams[n]? := by
  induction topics generalizing broker with
  | nil => rfl
  | cons topic rest ih =>
    rw [askFor_cons]
    by_cases refused : topic ∈ broker.rejected
    · rw [subscribe_of_rejected refused]
      exact ih old
    · have streams := @subscribe_streams broker group topic refused
      have longer : n < (broker.subscribe topic group).2.streams.length := by
        rw [streams, List.length_append]
        omega
      rw [ih longer, streams, List.getElem?_append_left old]

/-- Where all subscriptions are refused, only the asking leaves a trace. -/
theorem askFor_of_rejected (refused : ∀ topic ∈ topics, topic ∈ broker.rejected) :
    broker.askFor group topics = { broker with asked := broker.asked ++ topics } := by
  induction topics generalizing broker with
  | nil => simp [askFor]
  | cons topic rest ih =>
    rw [askFor_cons, subscribe_of_rejected (refused topic List.mem_cons_self)]
    refine Eq.trans (ih ?_) ?_
    · exact fun other inside => refused other (List.mem_cons_of_mem _ inside)
    · rw [List.append_assoc, List.singleton_append]

/-- That a subscription was asked for wakes no stream. -/
theorem pending_asked {n : Nat} {asked : List String}
    (pending : (broker.receive n).1 = .pending) :
    (({ broker with asked } : Broker).receive n).1 = .pending := by
  obtain ⟨s, found, queue, opened, member⟩ := receive_pending_iff.mp pending
  exact receive_pending_iff.mpr ⟨s, found, queue, opened, member⟩

/-- The broker after some streams were closed, one after the other. -/
def closeAll (broker : Broker) (streams : List Nat) : Broker := streams.foldl close broker

theorem closeAll_cons {stream : Nat} :
    broker.closeAll (stream :: streams) = (broker.close stream).closeAll streams := rfl

theorem closeAll_append {later : List Nat} :
    broker.closeAll (streams ++ later) = (broker.closeAll streams).closeAll later :=
  List.foldl_append

theorem asked_closeAll : (broker.closeAll streams).asked = broker.asked := by
  induction streams generalizing broker with
  | nil => rfl
  | cons stream rest ih => rw [closeAll_cons, ih, close_asked]

theorem rejected_closeAll : (broker.closeAll streams).rejected = broker.rejected := by
  induction streams generalizing broker with
  | nil => rfl
  | cons stream rest ih => rw [closeAll_cons, ih, close_rejected]

/-- The other streams stay as they are. -/
theorem streams_closeAll {n : Nat} (other : n ∉ streams) :
    (broker.closeAll streams).streams[n]? = broker.streams[n]? := by
  induction streams generalizing broker with
  | nil => rfl
  | cons stream rest ih =>
    obtain ⟨differs, others⟩ := List.ne_and_not_mem_of_not_mem_cons other
    rw [closeAll_cons, ih others, close_streams, modifyStream,
      List.getElem?_modify_ne _ _ (Ne.symm differs)]

end Several

end TopicAlerts.Broker
