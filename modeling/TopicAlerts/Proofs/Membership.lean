import Mathlib.Data.List.Induction
import TopicAlerts.Proofs.Broker

/-!
# Who serves a topic

A run of a broker is a list of events: subscriptions are asked for, messages are published and
received, streams are closed and dropped, topics are disconnected, refused and accepted again. The
history of a run tells which streams serve a topic, and in which group: those that a subscription
gave, unless they were closed or dropped or the topic was disconnected since then
(`Broker.Serves`). These are just the open members that the broker keeps
(`Broker.mem_openMembers_run`), although it hears of a dropped stream only when the next message is
published.
-/

namespace TopicAlerts.Broker

/-- What is done with a broker and its streams. -/
inductive Event
  | subscribe (topic group : String)
  | publish (topic : String) (payload : List UInt8)
  | receive (stream : Nat)
  | close (stream : Nat)
  | drop (stream : Nat)
  | disconnect (topic : String)
  | reject (topic : String)
  | accept (topic : String)

/-- The broker after an event. -/
def after (broker : Broker) : Event → Broker
  | .subscribe topic group => (broker.subscribe topic group).2
  | .publish topic payload => (broker.publish topic payload).2
  | .receive stream => (broker.receive stream).2
  | .close stream => broker.close stream
  | .drop stream => broker.drop stream
  | .disconnect topic => broker.disconnect topic
  | .reject topic => broker.reject topic
  | .accept topic => broker.accept topic

/-- The broker after events one after the other. -/
def run (broker : Broker) (events : List Event) : Broker := events.foldl after broker

/-- The members that the broker keeps of a topic. -/
def members (broker : Broker) (topic : String) : List Member :=
  (broker.topic? topic).elim [] (·.members)

/-- Whether an event ends the service of a stream on a topic. -/
def Event.Ends (stream : Nat) (topic : String) : Event → Prop
  | .close other | .drop other => other = stream
  | .disconnect other => other = topic
  | .subscribe _ _ | .publish _ _ | .receive _ | .reject _ | .accept _ => False

/-- In a run from the start, a subscription to a topic in a group gave the stream, before the events
of `since`. -/
def Subscribed (events : List Event) (stream : Nat) (topic group : String) (since : List Event) :
    Prop :=
  ∃ earlier, events = earlier ++ .subscribe topic group :: since ∧
    ((empty.run earlier).subscribe topic group).1 = some stream

/-- After a run from the start, a stream serves a topic in a group: a subscription gave it, and
nothing has ended its service since then. -/
def Serves (events : List Event) (stream : Nat) (topic group : String) : Prop :=
  ∃ since, Subscribed events stream topic group since ∧ ∀ event ∈ since, ¬event.Ends stream topic

variable {broker : Broker} {event : Event} {events : List Event} {topic other group : String}
  {stream n : Nat} {member : Member}

theorem run_append : broker.run (events ++ [event]) = (broker.run events).after event :=
  List.foldl_concat _ _ _ _

/-! ## Members -/

theorem openMembers_eq : broker.openMembers topic =
    (broker.members topic).filter fun member => broker.isOpen member.stream := by
  unfold openMembers members
  cases broker.topic? topic <;> rfl

theorem mem_openMembers : member ∈ broker.openMembers topic ↔
    member ∈ broker.members topic ∧ broker.isOpen member.stream = true := by
  rw [openMembers_eq, List.mem_filter]

theorem members_subscribe (accepted : topic ∉ broker.rejected) :
    (broker.subscribe topic group).2.members other =
      if other = topic then broker.members other ++ [⟨broker.streams.length, group⟩]
      else broker.members other := by
  unfold members
  split_ifs with same
  · subst same
    obtain ⟨cursor, listed⟩ := @subscribe_topic?_self broker group other accepted
    rw [listed]
    rfl
  · rw [subscribe_topic?_of_ne accepted same]

theorem members_publish (payload : List UInt8) :
    (broker.publish topic payload).2.members other =
      if other = topic then broker.openMembers other else broker.members other := by
  rcases @publish_cases broker topic payload with
    ⟨nothing, same⟩ | ⟨state, streams, listed, -, published⟩
  · rw [same]
    split_ifs with isTopic
    · subst isTopic
      unfold members openMembers
      rw [nothing]
      rfl
    · rfl
  · have topics : (broker.publish topic payload).2.topic? other = (broker.setTopic topic
        ⟨state.members.filter fun member => broker.isOpen member.stream,
          state.cursor + 1⟩).topic? other := by
      rw [published]
      rfl
    unfold members
    rw [topics]
    split_ifs with isTopic
    · subst isTopic
      rw [topic?_setTopic_self]
      unfold openMembers
      rw [listed]
      rfl
    · rw [topic?_setTopic_of_ne _ isTopic]

theorem members_receive : (broker.receive stream).2.members topic = broker.members topic := by
  obtain ⟨streams, -, received⟩ := @receive_cases broker stream
  rw [received]
  rfl

theorem members_disconnect : (broker.disconnect topic).members other =
    if other = topic then [] else broker.members other := by
  unfold members
  rw [topic?_disconnect]
  split_ifs <;> rfl

/-- All members of a topic are streams of that topic. -/
def Enrolled (broker : Broker) : Prop :=
  ∀ topic, ∀ member ∈ broker.members topic,
    ∃ became, broker.ledger[member.stream]? = some (topic, became)

/-- Closing a stream takes it from the members of all topics: it is on no other than its own. -/
theorem Enrolled.members_close (enrolled : broker.Enrolled) :
    (broker.close stream).members topic =
      (broker.members topic).filter (·.stream != stream) := by
  have keeps (others : ∀ member ∈ broker.members topic, member.stream ≠ stream) :
      broker.members topic = (broker.members topic).filter (·.stream != stream) :=
    (List.filter_eq_self.mpr fun member inside => bne_iff_ne.mpr (others member inside)).symm
  cases found : broker.streams[stream]? with
  | none =>
    have same : broker.close stream = broker := by
      unfold close
      rw [found]
    rw [same]
    refine keeps fun member inside isStream => ?_
    obtain ⟨became, line⟩ := enrolled topic member inside
    rw [isStream, ledger_getElem?, found] at line
    cases line
  | some s =>
    have closed : (broker.close stream).members topic =
        if topic = s.topic then (broker.members topic).filter (·.stream != stream)
        else broker.members topic := by
      unfold members
      rw [topic?_close found]
      split_ifs
      · cases broker.topic? topic <;> rfl
      · rfl
    rw [closed]
    split_ifs with isTopic
    · rfl
    · refine keeps fun member inside isStream => isTopic ?_
      obtain ⟨became, line⟩ := enrolled topic member inside
      rw [isStream, ledger_getElem?, found] at line
      exact (congrArg Prod.fst (Option.some.inj line)).symm

/-! ## Open streams -/

theorem isOpen_of_ledger {before : Broker} (same : broker.ledger = before.ledger) :
    broker.isOpen n = before.isOpen n := by
  rw [Bool.eq_iff_iff, isOpen_iff, isOpen_iff, same]

theorem isOpen_subscribe (accepted : topic ∉ broker.rejected) :
    (broker.subscribe topic group).2.isOpen n =
      (broker.isOpen n || n == broker.streams.length) := by
  rw [Bool.eq_iff_iff, Bool.or_eq_true, beq_iff_eq, isOpen_iff, isOpen_iff]
  simp only [subscribe_line accepted, exists_or]
  have made : (∃ t, n = broker.streams.length ∧ (t, StreamState.opened) = (topic, .opened)) ↔
      n = broker.streams.length := by simp
  rw [made]

/-- A stream that becomes other than open is open no more; the others stay as they are. -/
theorem isOpen_modifyStream {change : Stream → Stream}
    (ends : ∀ s, (change s).state ≠ .opened) :
    (broker.modifyStream stream change).isOpen n = (broker.isOpen n && n != stream) := by
  unfold isOpen modifyStream
  rw [List.getElem?_modify]
  by_cases same : stream = n
  · subst same
    cases broker.streams[stream]? with
    | none => simp
    | some s => simp [ends s]
  · have differs : (n != stream) = true := bne_iff_ne.mpr (Ne.symm same)
    rw [differs, Bool.and_true]
    cases broker.streams[n]? <;> simp [same]

theorem isOpen_close : (broker.close stream).isOpen n = (broker.isOpen n && n != stream) := by
  have sameStreams : (broker.close stream).isOpen n =
      (broker.modifyStream stream fun s => { s with state := .closed }).isOpen n := by
    unfold isOpen
    rw [close_streams]
  rw [sameStreams]
  exact isOpen_modifyStream fun s => by simp

theorem isOpen_drop : (broker.drop stream).isOpen n = (broker.isOpen n && n != stream) :=
  isOpen_modifyStream fun s => by simp

/-! ## Open members -/

theorem Enrolled.stream_lt (enrolled : broker.Enrolled) (inside : member ∈ broker.members topic) :
    member.stream < broker.streams.length := by
  obtain ⟨became, line⟩ := enrolled topic member inside
  rw [← length_ledger]
  exact (List.getElem?_eq_some_iff.mp line).1

theorem Enrolled.openMembers_subscribe (enrolled : broker.Enrolled)
    (accepted : topic ∉ broker.rejected) :
    (broker.subscribe topic group).2.openMembers other =
      if other = topic then broker.openMembers other ++ [⟨broker.streams.length, group⟩]
      else broker.openMembers other := by
  -- The new stream is open, but a member already has another number.
  have before : (broker.members other).filter (fun member => broker.isOpen member.stream ||
      member.stream == broker.streams.length) = broker.openMembers other := by
    rw [openMembers_eq]
    refine List.filter_congr fun member inside => ?_
    have old : (member.stream == broker.streams.length) = false :=
      beq_eq_false_iff_ne.mpr (Nat.ne_of_lt (enrolled.stream_lt inside))
    rw [old, Bool.or_false]
  rw [openMembers_eq, members_subscribe accepted]
  simp only [isOpen_subscribe accepted]
  split_ifs
  · rw [List.filter_append, before]
    simp
  · exact before

theorem openMembers_publish (payload : List UInt8) :
    (broker.publish topic payload).2.openMembers other = broker.openMembers other := by
  have sameOpen (n : Nat) : (broker.publish topic payload).2.isOpen n = broker.isOpen n :=
    isOpen_of_ledger (ledger_publish payload)
  rw [openMembers_eq, members_publish]
  simp only [sameOpen]
  split_ifs
  · rw [openMembers_eq, List.filter_filter]
    simp
  · exact openMembers_eq.symm

theorem openMembers_receive :
    (broker.receive stream).2.openMembers topic = broker.openMembers topic := by
  obtain ⟨streams, lines, received⟩ := @receive_cases broker stream
  have sameOpen (n : Nat) : (broker.receive stream).2.isOpen n = broker.isOpen n :=
    isOpen_of_ledger (by rw [received]; exact lines)
  rw [openMembers_eq, members_receive, openMembers_eq]
  simp only [sameOpen]

theorem Enrolled.openMembers_close (enrolled : broker.Enrolled) :
    (broker.close stream).openMembers topic =
      (broker.openMembers topic).filter (·.stream != stream) := by
  rw [openMembers_eq, enrolled.members_close, openMembers_eq, List.filter_filter,
    List.filter_filter]
  refine List.filter_congr fun member _ => ?_
  rw [isOpen_close]
  cases broker.isOpen member.stream <;> cases member.stream != stream <;> rfl

theorem openMembers_drop : (broker.drop stream).openMembers topic =
    (broker.openMembers topic).filter (·.stream != stream) := by
  have sameMembers : (broker.drop stream).members topic = broker.members topic := rfl
  rw [openMembers_eq, sameMembers, openMembers_eq, List.filter_filter]
  refine List.filter_congr fun member _ => ?_
  rw [isOpen_drop, Bool.and_comm]

theorem openMembers_disconnect : (broker.disconnect topic).openMembers other =
    if other = topic then [] else broker.openMembers other := by
  have sameOpen (n : Nat) : (broker.disconnect topic).isOpen n = broker.isOpen n := rfl
  rw [openMembers_eq, members_disconnect]
  simp only [sameOpen]
  split_ifs
  · rfl
  · exact openMembers_eq.symm

/-! ## One event -/

/-- An event makes a stream a member of a topic. -/
def Joins (broker : Broker) (event : Event) (topic : String) (member : Member) : Prop :=
  event = .subscribe topic member.group ∧
    (broker.subscribe topic member.group).1 = some member.stream

theorem joins_subscribe_iff (accepted : topic ∉ broker.rejected) :
    broker.Joins (.subscribe topic group) other member ↔
      other = topic ∧ member = ⟨broker.streams.length, group⟩ := by
  constructor
  · rintro ⟨isEvent, made⟩
    obtain ⟨rfl, rfl⟩ := Event.subscribe.inj isEvent
    rw [subscribe_stream accepted] at made
    refine ⟨rfl, ?_⟩
    rw [Option.some.inj made]
  · rintro ⟨rfl, rfl⟩
    exact ⟨rfl, subscribe_stream accepted⟩

theorem not_joins_of_rejected (refused : topic ∈ broker.rejected) :
    ¬broker.Joins (.subscribe topic group) other member := by
  rintro ⟨isEvent, made⟩
  obtain ⟨rfl, rfl⟩ := Event.subscribe.inj isEvent
  rw [subscribe_of_rejected refused] at made
  cases made

/-- A member is an old one, or joins. -/
theorem Enrolled.mem_members_after (enrolled : broker.Enrolled)
    (inside : member ∈ (broker.after event).members topic) :
    member ∈ broker.members topic ∨ broker.Joins event topic member := by
  unfold after at inside
  cases event with
  | subscribe topic' group =>
    dsimp only at inside
    by_cases accepted : topic' ∉ broker.rejected
    · rw [members_subscribe accepted] at inside
      rw [joins_subscribe_iff accepted]
      split_ifs at inside with same
      · rcases List.mem_append.mp inside with old | new
        · exact .inl old
        · exact .inr ⟨same, List.mem_singleton.mp new⟩
      · exact .inl inside
    · rw [subscribe_of_rejected (not_not.mp accepted)] at inside
      exact .inl inside
  | publish topic' payload =>
    dsimp only at inside
    rw [members_publish] at inside
    split_ifs at inside
    · exact .inl (mem_openMembers.mp inside).1
    · exact .inl inside
  | receive n =>
    dsimp only at inside
    rw [members_receive] at inside
    exact .inl inside
  | close n =>
    dsimp only at inside
    rw [enrolled.members_close] at inside
    exact .inl (List.mem_filter.mp inside).1
  | disconnect topic' =>
    dsimp only at inside
    rw [members_disconnect] at inside
    split_ifs at inside
    · cases inside
    · exact .inl inside
  | drop n | reject topic' | accept topic' => exact .inl inside

/-- The open members after an event are those before whose service it does not end, and the one
that joins. -/
theorem Enrolled.mem_openMembers_after (enrolled : broker.Enrolled) :
    member ∈ (broker.after event).openMembers topic ↔
      (member ∈ broker.openMembers topic ∧ ¬event.Ends member.stream topic) ∨
        broker.Joins event topic member := by
  unfold after
  cases event with
  | subscribe topic' group =>
    by_cases accepted : topic' ∉ broker.rejected
    · rw [joins_subscribe_iff accepted]
      dsimp only
      rw [enrolled.openMembers_subscribe accepted]
      split_ifs with same <;> simp [Event.Ends, same]
    · have refused : topic' ∈ broker.rejected := not_not.mp accepted
      have nobody := @not_joins_of_rejected broker topic' topic group member refused
      dsimp only
      rw [subscribe_of_rejected refused]
      simp only [nobody, or_false, Event.Ends, not_false_eq_true, and_true]
      rfl
  | publish topic' payload =>
    dsimp only
    rw [openMembers_publish]
    simp [Event.Ends, Joins]
  | receive n =>
    dsimp only
    rw [openMembers_receive]
    simp [Event.Ends, Joins]
  | close n =>
    dsimp only
    rw [enrolled.openMembers_close, List.mem_filter, bne_iff_ne]
    simp [Event.Ends, Joins, eq_comm]
  | drop n =>
    dsimp only
    rw [openMembers_drop, List.mem_filter, bne_iff_ne]
    simp [Event.Ends, Joins, eq_comm]
  | disconnect topic' =>
    dsimp only
    rw [openMembers_disconnect]
    split_ifs with same
    · simp [Event.Ends, Joins, same]
    · simp [Event.Ends, Joins, Ne.symm same]
  | reject topic' | accept topic' =>
    simp only [Event.Ends, Joins, reduceCtorEq, false_and, or_false, not_false_eq_true, and_true]
    rfl

/-! ## The topics of streams -/

/-- A change that keeps the topic of a stream and opens nothing does so for all lines. -/
theorem line_modifyStream {change : Stream → Stream} (kept : ∀ s, (change s).topic = s.topic)
    (opensNothing : ∀ s, (change s).state = .opened → s.state = .opened) {was : StreamState}
    (line : broker.ledger[n]? = some (topic, was)) :
    ∃ became, (broker.modifyStream stream change).ledger[n]? = some (topic, became) ∧
      (became = .opened → was = .opened) := by
  rw [ledger_getElem?] at line
  obtain ⟨s, found, isLine⟩ := Option.map_eq_some_iff.mp line
  obtain ⟨rfl, rfl⟩ := Prod.mk.inj isLine
  have next : (broker.modifyStream stream change).streams[n]? =
      some (if stream = n then change s else s) := by
    rw [modifyStream, List.getElem?_modify, found]
    split_ifs <;> rfl
  refine ⟨(if stream = n then change s else s).state, ?_, ?_⟩
  · rw [ledger_getElem?, next]
    split_ifs
    · simp [kept s]
    · rfl
  · split_ifs
    · exact opensNothing s
    · exact id

/-- No event changes the topic of a stream, or opens it again. -/
theorem line_after {was : StreamState} (line : broker.ledger[n]? = some (topic, was)) :
    ∃ became, (broker.after event).ledger[n]? = some (topic, became) ∧
      (became = .opened → was = .opened) := by
  unfold after
  cases event with
  | subscribe topic' group =>
    by_cases accepted : topic' ∉ broker.rejected
    · exact ⟨was, (subscribe_line accepted).mpr (.inl line), id⟩
    · dsimp only
      rw [subscribe_of_rejected (not_not.mp accepted)]
      exact ⟨was, line, id⟩
  | publish topic' payload =>
    dsimp only
    rw [ledger_publish]
    exact ⟨was, line, id⟩
  | receive m =>
    obtain ⟨streams, lines, received⟩ := @receive_cases broker m
    dsimp only
    rw [received, ledger, lines]
    exact ⟨was, line, id⟩
  | close m =>
    have sameStreams : (broker.close m).ledger =
        (broker.modifyStream m fun s => { s with state := .closed }).ledger := by
      unfold ledger
      rw [close_streams]
    dsimp only
    rw [sameStreams]
    refine line_modifyStream ?_ ?_ line
    · exact fun _ => rfl
    · exact fun _ isOpen => by cases isOpen
  | drop m =>
    refine line_modifyStream ?_ ?_ line
    · exact fun _ => rfl
    · exact fun _ isOpen => by cases isOpen
  | disconnect topic' | reject topic' | accept topic' => exact ⟨was, line, id⟩

theorem line_run {was : StreamState} (line : broker.ledger[n]? = some (topic, was)) :
    ∃ became, (broker.run events).ledger[n]? = some (topic, became) := by
  induction events generalizing broker was with
  | nil => exact ⟨was, line⟩
  | cons event rest ih =>
    obtain ⟨became, next, -⟩ := @line_after broker event topic n was line
    exact ih next

theorem eq_length_of_subscribe (made : (broker.subscribe topic group).1 = some stream) :
    topic ∉ broker.rejected ∧ stream = broker.streams.length := by
  by_cases accepted : topic ∉ broker.rejected
  · rw [subscribe_stream accepted] at made
    exact ⟨accepted, (Option.some.inj made).symm⟩
  · rw [subscribe_of_rejected (not_not.mp accepted)] at made
    cases made

/-- The stream of a member that joins is one of the topic. -/
theorem Joins.line (joins : broker.Joins event topic member) :
    (broker.after event).ledger[member.stream]? = some (topic, .opened) := by
  obtain ⟨rfl, made⟩ := joins
  obtain ⟨accepted, isNew⟩ := eq_length_of_subscribe made
  exact (subscribe_line accepted).mpr (.inr ⟨isNew, rfl⟩)

theorem Enrolled.after (enrolled : broker.Enrolled) (event : Event) :
    (broker.after event).Enrolled := by
  intro topic member inside
  rcases enrolled.mem_members_after inside with old | joins
  · obtain ⟨was, line⟩ := enrolled topic member old
    obtain ⟨became, next, -⟩ := @line_after broker event topic member.stream was line
    exact ⟨became, next⟩
  · exact ⟨.opened, joins.line⟩

theorem enrolled_run (events : List Event) : (empty.run events).Enrolled := by
  induction events using List.reverseRecOn with
  | nil =>
    intro topic member inside
    cases inside
  | append_singleton events event ih =>
    rw [run_append]
    exact ih.after event

/-! ## Histories -/

theorem subscribed_append {since : List Event} :
    Subscribed (events ++ [event]) stream topic group since ↔
      (∃ before, since = before ++ [event] ∧ Subscribed events stream topic group before) ∨
        (since = [] ∧ (empty.run events).Joins event topic ⟨stream, group⟩) := by
  constructor
  · rintro ⟨earlier, split, made⟩
    rcases List.eq_nil_or_concat since with rfl | ⟨before, last, rfl⟩
    · right
      obtain ⟨rfl, isLast⟩ := List.append_inj' split rfl
      exact ⟨rfl, (List.singleton_inj.mp isLast), made⟩
    · left
      rw [List.concat_eq_append, ← List.cons_append, ← List.append_assoc] at split
      obtain ⟨isStart, isLast⟩ := List.append_inj' split rfl
      rw [List.concat_eq_append, List.singleton_inj.mp isLast]
      exact ⟨before, rfl, earlier, isStart, made⟩
  · rintro (⟨before, rfl, earlier, rfl, made⟩ | ⟨rfl, rfl, made⟩)
    · refine ⟨earlier, ?_, made⟩
      rw [List.append_assoc, List.cons_append]
    · exact ⟨events, rfl, made⟩

/-- The stream of a subscription remains one of its topic. -/
theorem Subscribed.line {since : List Event}
    (subscribed : Subscribed events stream topic group since) :
    ∃ became, (empty.run events).ledger[stream]? = some (topic, became) := by
  obtain ⟨earlier, rfl, made⟩ := subscribed
  have joins : (empty.run earlier).Joins (.subscribe topic group) topic ⟨stream, group⟩ :=
    ⟨rfl, made⟩
  have later : empty.run (earlier ++ .subscribe topic group :: since) =
      ((empty.run earlier).after (.subscribe topic group)).run since := List.foldl_append
  rw [later]
  exact line_run joins.line

theorem Subscribed.append {since : List Event}
    (subscribed : Subscribed events stream topic group since) (later : List Event) :
    Subscribed (events ++ later) stream topic group (since ++ later) := by
  obtain ⟨earlier, rfl, made⟩ := subscribed
  refine ⟨earlier, ?_, made⟩
  rw [List.append_assoc, List.cons_append]

/-- A stream is given by one subscription only. -/
theorem Subscribed.unique {topic' group' : String} {since since' : List Event}
    (subscribed : Subscribed events stream topic group since)
    (again : Subscribed events stream topic' group' since') :
    topic = topic' ∧ group = group' ∧ since = since' := by
  -- A new stream has a number that no stream had before, so neither subscription is the later one.
  have isNew {events : List Event} {event : Event} {topic group topic' group' : String}
      {since : List Event} (old : Subscribed events stream topic group since)
      (joins : (empty.run events).Joins event topic' ⟨stream, group'⟩) : False := by
    obtain ⟨became, line⟩ := old.line
    have isLength : stream = (empty.run events).streams.length :=
      (eq_length_of_subscribe joins.2).2
    have isOld : stream < (empty.run events).ledger.length :=
      (List.getElem?_eq_some_iff.mp line).1
    rw [length_ledger] at isOld
    omega
  induction events using List.reverseRecOn generalizing since since' with
  | nil =>
    obtain ⟨earlier, split, -⟩ := subscribed
    simp at split
  | append_singleton events event ih =>
    rcases subscribed_append.mp subscribed with ⟨before, rfl, old⟩ | ⟨rfl, joins⟩
    · rcases subscribed_append.mp again with ⟨before', rfl, old'⟩ | ⟨rfl, joins'⟩
      · obtain ⟨sameTopic, sameGroup, rfl⟩ := ih old old'
        exact ⟨sameTopic, sameGroup, rfl⟩
      · exact (isNew old joins').elim
    · rcases subscribed_append.mp again with ⟨before', rfl, old'⟩ | ⟨rfl, joins'⟩
      · exact (isNew old' joins).elim
      · obtain ⟨rfl, -⟩ := joins
        obtain ⟨sameTopic, sameGroup⟩ := Event.subscribe.inj joins'.1
        exact ⟨sameTopic, sameGroup, rfl⟩

theorem serves_append : Serves (events ++ [event]) stream topic group ↔
    (Serves events stream topic group ∧ ¬event.Ends stream topic) ∨
      (empty.run events).Joins event topic ⟨stream, group⟩ := by
  unfold Serves
  simp only [subscribed_append]
  constructor
  · rintro ⟨since, ⟨before, rfl, old⟩ | ⟨rfl, joins⟩, lasts⟩
    · refine .inl ⟨⟨before, old, fun event inside => ?_⟩, ?_⟩
      · exact lasts event (List.mem_append_left _ inside)
      · exact lasts event (List.mem_append_right _ (List.mem_singleton.mpr rfl))
    · exact .inr joins
  · rintro (⟨⟨before, old, lasts⟩, lastsOn⟩ | joins)
    · refine ⟨before ++ [event], .inl ⟨before, rfl, old⟩, fun event' inside => ?_⟩
      rcases List.mem_append.mp inside with early | last
      · exact lasts event' early
      · rwa [List.mem_singleton.mp last]
    · exact ⟨[], .inr ⟨rfl, joins⟩, fun _ inside => by cases inside⟩

/-- A stream that serves a topic later on has never stopped since its subscription. -/
theorem Subscribed.serves_of_append {topic' group' : String} {since later : List Event}
    (subscribed : Subscribed events stream topic group since)
    (serves : Serves (events ++ later) stream topic' group') :
    Serves events stream topic group := by
  obtain ⟨since', subscribed', lasts⟩ := serves
  obtain ⟨rfl, -, rfl⟩ := (subscribed.append later).unique subscribed'
  exact ⟨since, subscribed, fun event inside => lasts event (List.mem_append_left _ inside)⟩

/-- The open members of a topic are the streams that serve it. -/
theorem mem_openMembers_run :
    ⟨stream, group⟩ ∈ (empty.run events).openMembers topic ↔ Serves events stream topic group := by
  induction events using List.reverseRecOn with
  | nil =>
    constructor
    · intro inside
      cases inside
    · rintro ⟨since, ⟨earlier, split, -⟩, -⟩
      simp at split
  | append_singleton events event ih =>
    rw [run_append, (enrolled_run events).mem_openMembers_after, serves_append, ih]

/-- Members, open or not, were given by subscriptions to the topic in their group. -/
theorem subscribed_of_mem_members (inside : member ∈ (empty.run events).members topic) :
    ∃ since, Subscribed events member.stream topic member.group since := by
  induction events using List.reverseRecOn with
  | nil => cases inside
  | append_singleton events event ih =>
    rw [run_append] at inside
    simp only [subscribed_append]
    rcases (enrolled_run events).mem_members_after inside with old | joins
    · obtain ⟨since, subscribed⟩ := ih old
      exact ⟨since ++ [event], .inl ⟨since, rfl, subscribed⟩⟩
    · exact ⟨[], .inr ⟨rfl, joins⟩⟩

end TopicAlerts.Broker
