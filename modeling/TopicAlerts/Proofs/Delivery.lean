import Mathlib.Data.List.Infix
import TopicAlerts.Proofs.Membership
import TopicAlerts.Proofs.Order

/-!
# What streams receive

A message goes to one open member of each group that has any (`Broker.receivers`). What was handed
to a stream so far is what was taken from it so far and what waits for it: each event takes from the
queue of a stream in front and adds to it at its end (`Broker.taken_append_waiting`), and only
dropping a stream loses anything. So streams yield the messages that were handed to them, each once
and in their order; `Broker.run_deliveries` puts this together with the members of the groups.
-/

namespace TopicAlerts.Broker

/-- The cursor of a topic. -/
def cursor (broker : Broker) (topic : String) : UInt64 := (broker.topic? topic).elim 0 (·.cursor)

/-- The groups with open members on a topic. -/
def groups (broker : Broker) (topic : String) : List String :=
  ((broker.openMembers topic).map (·.group)).eraseDups

/-- The members whose turn it is on a topic, one of each group. -/
def receivers (broker : Broker) (topic : String) : List Member :=
  (broker.groups topic).filterMap (chosen? (broker.openMembers topic) (broker.cursor topic))

/-- The stream with one more message in its queue. -/
def Stream.push (s : Stream) (message : Message) : Stream :=
  { s with queue := s.queue ++ [message] }

/-- The messages that wait for a stream. -/
def waiting (broker : Broker) (stream : Nat) : List Message :=
  (broker.streams[stream]?).elim [] (·.queue)

/-- The message of an answer, if it is one. -/
def Received.messages : Received → List Message
  | .message given => [given]
  | .pending | .ended => []

/-! ## Histories of messages -/

/-- The messages that are published at an event. -/
def publishedAt (_ : Broker) : Event → List Message
  | .publish topic payload => [⟨topic, payload⟩]
  | .subscribe _ _ | .receive _ | .close _ | .drop _ | .disconnect _ | .reject _ | .accept _ => []

/-- The messages that are handed to a stream at an event. -/
def handedAt (stream : Nat) (broker : Broker) : Event → List Message
  | .publish topic payload =>
    if stream ∈ (broker.receivers topic).map (·.stream) then [⟨topic, payload⟩] else []
  | .subscribe _ _ | .receive _ | .close _ | .drop _ | .disconnect _ | .reject _ | .accept _ => []

/-- The messages that a stream yields at an event. -/
def takenAt (stream : Nat) (broker : Broker) : Event → List Message
  | .receive n => if n = stream then (broker.receive n).1.messages else []
  | .subscribe _ _ | .publish _ _ | .close _ | .drop _ | .disconnect _ | .reject _ | .accept _ => []

/-- What is collected in the course of a run. -/
def collect (what : Broker → Event → List Message) (broker : Broker) : List Event → List Message
  | [] => []
  | event :: rest => what broker event ++ collect what (broker.after event) rest

/-- The messages that were published in a run from the start. -/
def published (events : List Event) : List Message := collect publishedAt empty events

/-- The messages that were handed to a stream in a run from the start. -/
def handed (events : List Event) (stream : Nat) : List Message :=
  collect (handedAt stream) empty events

/-- The messages that a stream has yielded in a run from the start. -/
def taken (events : List Event) (stream : Nat) : List Message :=
  collect (takenAt stream) empty events

variable {broker : Broker} {event : Event} {events later : List Event} {topic other group : String}
  {stream n : Nat} {member : Member} {message : Message}
  {what : Broker → Event → List Message}

theorem collect_append : collect what broker (events ++ later) =
    collect what broker events ++ collect what (broker.run events) later := by
  induction events generalizing broker with
  | nil => rfl
  | cons event rest ih =>
    rw [List.cons_append, collect, ih, collect, List.append_assoc]
    rfl

theorem collect_concat : collect what broker (events ++ [event]) =
    collect what broker events ++ what (broker.run events) event := by
  rw [collect_append, collect, collect, List.append_nil]

/-! ## The receivers of a message -/

/-- Each group has a member whose turn it is. -/
theorem exists_chosen {members : List Member} (cursor : UInt64)
    (inside : group ∈ members.map (·.group)) :
    ∃ member, chosen? members cursor group = some member ∧ member.group = group := by
  obtain ⟨witness, isMember, isOfGroup⟩ := List.mem_map.mp inside
  have found : witness ∈ members.filter (·.group == group) :=
    List.mem_filter.mpr ⟨isMember, by simpa using isOfGroup⟩
  have nonempty : 0 < (members.filter (·.group == group)).length := List.length_pos_of_mem found
  have within : cursor.toNat % max (members.filter (·.group == group)).length 1 <
      (members.filter (·.group == group)).length := by
    rw [Nat.max_eq_left nonempty]
    exact Nat.mod_lt _ nonempty
  refine ⟨(members.filter (·.group == group))[_], List.getElem?_eq_getElem within, ?_⟩
  have chosen := List.getElem_mem within
  simpa using (List.mem_filter.mp chosen).2

theorem mem_of_chosen {members : List Member} {cursor : UInt64}
    (chosen : chosen? members cursor group = some member) :
    member ∈ members ∧ member.group = group := by
  have inside := List.mem_of_getElem? chosen
  obtain ⟨isMember, isOfGroup⟩ := List.mem_filter.mp inside
  exact ⟨isMember, by simpa using isOfGroup⟩

theorem mem_groups : group ∈ broker.groups topic ↔
    ∃ stream, ⟨stream, group⟩ ∈ broker.openMembers topic := by
  unfold groups
  rw [List.mem_eraseDups, List.mem_map]
  constructor
  · rintro ⟨⟨stream, _⟩, inside, rfl⟩
    exact ⟨stream, inside⟩
  · rintro ⟨stream, inside⟩
    exact ⟨⟨stream, group⟩, inside, rfl⟩

theorem map_group_receivers : (broker.receivers topic).map (·.group) = broker.groups topic := by
  unfold receivers
  rw [List.map_filterMap]
  have each : ∀ group ∈ broker.groups topic,
      (chosen? (broker.openMembers topic) (broker.cursor topic) group).map (·.group) =
        some group := by
    intro group inside
    obtain ⟨member, chosen, isOfGroup⟩ :=
      exists_chosen (broker.cursor topic) (List.mem_eraseDups.mp inside)
    rw [chosen, Option.map_some, isOfGroup]
  rw [List.filterMap_congr each, List.filterMap_some]

theorem nodup_groups : ((broker.receivers topic).map (·.group)).Nodup := by
  rw [map_group_receivers]
  exact nodup_eraseDups _

theorem mem_openMembers_of_receivers (inside : member ∈ broker.receivers topic) :
    member ∈ broker.openMembers topic := by
  obtain ⟨group, -, chosen⟩ := List.mem_filterMap.mp inside
  exact (mem_of_chosen chosen).1

/-- No stream is in two groups. -/
def Single (broker : Broker) : Prop :=
  ∀ topic, ∀ member ∈ broker.openMembers topic, ∀ other ∈ broker.openMembers topic,
    member.stream = other.stream → member = other

theorem single_run (events : List Event) : (empty.run events).Single := by
  rintro topic ⟨stream, group⟩ inside ⟨_, group'⟩ inside' rfl
  obtain ⟨since, subscribed, -⟩ := mem_openMembers_run.mp inside
  obtain ⟨since', subscribed', -⟩ := mem_openMembers_run.mp inside'
  obtain ⟨-, sameGroup, -⟩ := subscribed.unique subscribed'
  rw [sameGroup]

theorem Single.nodup_receivers (single : broker.Single) :
    ((broker.receivers topic).map (·.stream)).Nodup := by
  have nodup : (broker.receivers topic).Nodup := List.Nodup.of_map _ nodup_groups
  refine nodup.map_on fun member inside other inside' => ?_
  exact single topic member (mem_openMembers_of_receivers inside) other
    (mem_openMembers_of_receivers inside')

theorem publish_count (payload : List UInt8) :
    (broker.publish topic payload).1 = (broker.receivers topic).length := by
  unfold publish receivers groups openMembers cursor
  cases broker.topic? topic <;> rfl

theorem foldl_modifyStream_getElem? {change : Stream → Stream} {members : List Member}
    (nodup : (members.map (·.stream)).Nodup) :
    (members.foldl (fun b member => b.modifyStream member.stream change) broker).streams[n]? =
      (broker.streams[n]?).map fun s => if n ∈ members.map (·.stream) then change s else s := by
  induction members generalizing broker with
  | nil => simp
  | cons member rest ih =>
    obtain ⟨notAgain, nodupRest⟩ := List.nodup_cons.mp nodup
    rw [List.foldl_cons, ih nodupRest, modifyStream, List.getElem?_modify, Option.map_eq_map,
      Option.map_map]
    congr 1
    funext s
    by_cases isFirst : member.stream = n
    · have isNotLater : n ∉ rest.map (·.stream) := isFirst ▸ notAgain
      simp [isFirst, isNotLater]
    · simp [isFirst, Ne.symm isFirst]

/-- A message is appended to the queues of its receivers, and nothing else happens to streams. -/
theorem Single.publish_streams (single : broker.Single) (payload : List UInt8) :
    (broker.publish topic payload).2.streams[n]? = (broker.streams[n]?).map fun s =>
      if n ∈ (broker.receivers topic).map (·.stream) then s.push ⟨topic, payload⟩ else s := by
  have nodup : ((broker.receivers topic).map (·.stream)).Nodup := single.nodup_receivers
  unfold publish
  cases found : broker.topic? topic with
  | none =>
    have nobody : broker.receivers topic = [] := by
      unfold receivers groups openMembers
      rw [found]
      rfl
    rw [nobody]
    simp
  | some state =>
    have isOpenMembers : broker.openMembers topic =
        state.members.filter fun member => broker.isOpen member.stream := by
      unfold openMembers
      rw [found]
    have isCursor : broker.cursor topic = state.cursor := by
      unfold cursor
      rw [found]
      rfl
    unfold receivers groups at nodup ⊢
    rw [isOpenMembers, isCursor] at nodup ⊢
    exact foldl_modifyStream_getElem? nodup

/-! ## One event -/

theorem waiting_modifyStream {change : Stream → Stream} (kept : ∀ s, (change s).queue = s.queue) :
    (broker.modifyStream stream change).waiting n = broker.waiting n := by
  unfold waiting modifyStream
  rw [List.getElem?_modify]
  cases broker.streams[n]? with
  | none => rfl
  | some s => by_cases same : stream = n <;> simp [same, kept]

theorem waiting_drop : (broker.drop stream).waiting stream = [] := by
  unfold waiting drop modifyStream
  rw [List.getElem?_modify]
  cases broker.streams[stream]? <;> simp

theorem waiting_drop_of_ne (differs : n ≠ stream) :
    (broker.drop n).waiting stream = broker.waiting stream := by
  unfold waiting drop modifyStream
  rw [List.getElem?_modify_ne _ _ differs]

theorem waiting_close : (broker.close n).waiting stream = broker.waiting stream := by
  have sameStreams : (broker.close n).waiting stream =
      (broker.modifyStream n fun s => { s with state := .closed }).waiting stream := by
    unfold waiting
    rw [close_streams]
  rw [sameStreams]
  exact waiting_modifyStream fun _ => rfl

theorem waiting_subscribe : (broker.subscribe topic group).2.waiting stream =
    broker.waiting stream := by
  by_cases accepted : topic ∉ broker.rejected
  · unfold waiting
    rw [subscribe_streams accepted, List.getElem?_append]
    split_ifs with old
    · rfl
    · rw [List.getElem?_eq_none (Nat.le_of_not_lt old)]
      cases stream - broker.streams.length <;> rfl
  · rw [subscribe_of_rejected (not_not.mp accepted)]
    rfl

/-- What a stream yields is taken from its queue, and from no other. -/
theorem taken_append_waiting_receive :
    takenAt stream broker (.receive n) ++ (broker.receive n).2.waiting stream =
      broker.waiting stream := by
  unfold takenAt waiting receive
  by_cases same : n = stream
  · subst same
    cases found : broker.streams[n]? with
    | none => simp [found, Received.messages]
    | some s =>
      cases queue : s.queue with
      | nil => cases ended : broker.hasEnded n <;> simp [found, queue, ended, Received.messages]
      | cons message rest =>
        simp [found, queue, modifyStream, Received.messages]
  · cases found : broker.streams[n]? with
    | none => simp [same]
    | some s =>
      cases queue : s.queue with
      | nil => simp [same, queue]
      | cons message rest => simp [same, queue, modifyStream, List.getElem?_modify_ne]

/-- What a stream yields at an event and what waits for it then are what waited for it before and
what it is handed, unless it is dropped. -/
theorem Single.taken_append_waiting (single : broker.Single)
    (lossless : event = .drop stream → broker.waiting stream = []) :
    takenAt stream broker event ++ (broker.after event).waiting stream =
      broker.waiting stream ++ handedAt stream broker event := by
  cases event with
  | subscribe topic group =>
    rw [handedAt, List.append_nil]
    exact waiting_subscribe
  | publish topic payload =>
    have next : ((broker.publish topic payload).2).waiting stream =
        broker.waiting stream ++ handedAt stream broker (.publish topic payload) := by
      rw [handedAt]
      unfold waiting
      rw [single.publish_streams]
      cases found : broker.streams[stream]? with
      | none =>
        have nothing : stream ∉ (broker.receivers topic).map (·.stream) := by
          intro handed
          obtain ⟨member, inside, rfl⟩ := List.mem_map.mp handed
          have isOpen := (mem_openMembers.mp (mem_openMembers_of_receivers inside)).2
          unfold Broker.isOpen at isOpen
          rw [found] at isOpen
          cases isOpen
        rw [if_neg nothing]
        rfl
      | some s =>
        dsimp only [Option.map_some, Option.elim_some]
        split_ifs <;> simp [Stream.push]
    exact next
  | receive n =>
    rw [handedAt, List.append_nil]
    exact taken_append_waiting_receive
  | close n =>
    rw [handedAt, List.append_nil]
    exact waiting_close
  | drop n =>
    rw [handedAt, List.append_nil]
    by_cases same : n = stream
    · subst same
      rw [lossless rfl]
      exact waiting_drop
    · exact waiting_drop_of_ne same
  | disconnect topic | reject topic | accept topic =>
    rw [handedAt, List.append_nil]
    rfl

theorem exists_open_of_handedAt (handed : handedAt stream broker event ≠ []) :
    ∃ topic, ∃ member ∈ broker.openMembers topic, member.stream = stream := by
  cases event with
  | publish topic payload =>
    unfold handedAt at handed
    have isReceiver : stream ∈ (broker.receivers topic).map (·.stream) := by
      by_contra isNot
      exact handed (if_neg isNot)
    obtain ⟨member, inside, isStream⟩ := List.mem_map.mp isReceiver
    exact ⟨topic, member, mem_openMembers_of_receivers inside, isStream⟩
  | subscribe topic group | receive n | close n | drop n | disconnect topic | reject topic
  | accept topic => exact absurd rfl handed

/-- A stream is dropped, or closed with nothing left. -/
def Gone (broker : Broker) (stream : Nat) : Prop :=
  broker.waiting stream = [] ∧
    ∃ topic became, broker.ledger[stream]? = some (topic, became) ∧ became ≠ .opened

/-- Nothing comes to such a stream any more, or from it. -/
theorem Gone.after (gone : broker.Gone stream) (single : broker.Single) (event : Event) :
    (broker.after event).Gone stream ∧ takenAt stream broker event = [] ∧
      handedAt stream broker event = [] := by
  obtain ⟨empty, topic, was, line, isNotOpen⟩ := gone
  have nothing : handedAt stream broker event = [] := by
    by_contra handed
    obtain ⟨topic', member, inside, rfl⟩ := exists_open_of_handedAt handed
    obtain ⟨topic'', isOpen⟩ := isOpen_iff.mp (mem_openMembers.mp inside).2
    rw [line] at isOpen
    exact isNotOpen (congrArg Prod.snd (Option.some.inj isOpen))
  have balance := @single.taken_append_waiting broker event stream fun _ => empty
  rw [empty, nothing, List.append_nil, List.append_eq_nil_iff] at balance
  obtain ⟨became, next, opensNothing⟩ := @line_after broker event topic stream was line
  exact ⟨⟨balance.2, topic, became, next, fun isOpen => isNotOpen (opensNothing isOpen)⟩,
    balance.1, nothing⟩

/-! ## Runs -/

theorem handed_concat : handed (events ++ [event]) stream =
    handed events stream ++ handedAt stream (empty.run events) event := collect_concat

theorem taken_concat : taken (events ++ [event]) stream =
    taken events stream ++ takenAt stream (empty.run events) event := collect_concat

/-- All that was handed to a stream was taken from it or waits, unless the stream was dropped. -/
theorem taken_append_waiting_or (events : List Event) (stream : Nat) :
    taken events stream ++ (empty.run events).waiting stream = handed events stream ∨
      (.drop stream ∈ events ∧ (empty.run events).Gone stream ∧
        taken events stream <+: handed events stream) := by
  induction events using List.reverseRecOn with
  | nil => exact .inl rfl
  | append_singleton events event ih =>
    rw [run_append, handed_concat, taken_concat]
    rcases ih with balance | ⟨dropped, gone, isPrefix⟩
    · -- Only what waits for a stream that is dropped is lost.
      by_cases lossless : event = .drop stream → (empty.run events).waiting stream = []
      · left
        rw [List.append_assoc, (single_run events).taken_append_waiting lossless,
          ← List.append_assoc, balance]
      · right
        rw [Classical.not_imp] at lossless
        obtain ⟨rfl, waits⟩ := lossless
        refine ⟨List.mem_append_right _ (List.mem_singleton.mpr rfl), ⟨waiting_drop, ?_⟩, ?_⟩
        · cases found : (empty.run events).streams[stream]? with
          | none =>
            refine absurd ?_ waits
            unfold waiting
            rw [found]
            rfl
          | some s =>
            have line : (empty.run events).ledger[stream]? = some (s.topic, s.state) := by
              rw [ledger_getElem?, found]
              rfl
            have here : stream < (empty.run events).ledger.length :=
              (List.getElem?_eq_some_iff.mp line).1
            refine ⟨s.topic, .dropped, ?_, by simp⟩
            unfold after
            dsimp only
            rw [ledger_drop line, List.getElem?_set_self here]
        · rw [takenAt, handedAt, List.append_nil, List.append_nil, ← balance]
          exact List.prefix_append _ _
    · right
      obtain ⟨goneAfter, takesNothing, handsNothing⟩ := gone.after (single_run events) event
      refine ⟨List.mem_append_left _ dropped, goneAfter, ?_⟩
      rw [takesNothing, handsNothing, List.append_nil, List.append_nil]
      exact isPrefix

theorem taken_append_waiting (notDropped : .drop stream ∉ events) :
    taken events stream ++ (empty.run events).waiting stream = handed events stream := by
  rcases taken_append_waiting_or events stream with balance | ⟨dropped, -⟩
  · exact balance
  · exact absurd dropped notDropped

/-- A stream yields what was handed to it, in this order. -/
theorem taken_isPrefix (events : List Event) (stream : Nat) :
    taken events stream <+: handed events stream := by
  rcases taken_append_waiting_or events stream with balance | ⟨-, -, isPrefix⟩
  · rw [← balance]
    exact List.prefix_append _ _
  · exact isPrefix

theorem handed_sublist (events : List Event) (stream : Nat) :
    (handed events stream).Sublist (published events) := by
  unfold handed published
  generalize empty = broker
  induction events generalizing broker with
  | nil => exact List.Sublist.refl _
  | cons event rest ih =>
    refine List.Sublist.append ?_ (ih _)
    cases event with
    | publish topic payload =>
      rw [handedAt, publishedAt]
      split_ifs
      · exact List.Sublist.refl _
      · exact List.nil_sublist _
    | subscribe topic group | receive n | close n | drop n | disconnect topic | reject topic
    | accept topic => exact List.Sublist.refl _

/-- Messages are handed only to streams that a subscription gave. -/
theorem subscribed_of_handed (isHanded : handed events stream ≠ []) :
    ∃ topic group since, Subscribed events stream topic group since := by
  induction events using List.reverseRecOn with
  | nil => exact absurd rfl isHanded
  | append_singleton events event ih =>
    by_cases before : handed events stream = []
    · rw [handed_concat, before, List.nil_append] at isHanded
      obtain ⟨topic, ⟨_, group⟩, inside, rfl⟩ := exists_open_of_handedAt isHanded
      obtain ⟨since, subscribed, -⟩ := mem_openMembers_run.mp inside
      exact ⟨topic, group, since ++ [event], subscribed.append [event]⟩
    · obtain ⟨topic, group, since, subscribed⟩ := ih before
      exact ⟨topic, group, since ++ [event], subscribed.append [event]⟩

/-- After its service on a topic has ended, nothing is handed to a stream. -/
theorem handed_of_not_serves {since : List Event}
    (subscribed : Subscribed events stream topic group since)
    (ended : ¬Serves events stream topic group) (later : List Event) :
    handed (events ++ later) stream = handed events stream := by
  induction later using List.reverseRecOn with
  | nil => rw [List.append_nil]
  | append_singleton later event ih =>
    have nothing : handedAt stream (empty.run (events ++ later)) event = [] := by
      by_contra isHanded
      obtain ⟨topic', ⟨_, group'⟩, inside, rfl⟩ := exists_open_of_handedAt isHanded
      exact ended (subscribed.serves_of_append (mem_openMembers_run.mp inside))
    rw [← List.append_assoc, handed_concat, ih, nothing, List.append_nil]

/-! ## Answers -/

theorem receive_of_waiting {rest : List Message} (waits : broker.waiting stream = message :: rest) :
    (broker.receive stream).1 = .message message := by
  unfold waiting at waits
  unfold receive
  cases found : broker.streams[stream]? with
  | none =>
    rw [found] at waits
    cases waits
  | some s =>
    rw [found] at waits
    have queue : s.queue = message :: rest := waits
    simp [queue]

theorem answer_of_idle (idle : broker.waiting stream = []) :
    (broker.receive stream).1 = if broker.hasEnded stream then .ended else .pending := by
  unfold waiting at idle
  unfold receive
  cases found : broker.streams[stream]? with
  | none =>
    unfold hasEnded
    rw [found]
    rfl
  | some s =>
    rw [found] at idle
    have queue : s.queue = [] := idle
    simp [queue]

/-- A stream gives nothing any more when nothing waits and nothing comes. -/
theorem receive_ended_iff : (broker.receive stream).1 = .ended ↔
    broker.waiting stream = [] ∧ broker.hasEnded stream = true := by
  cases waits : broker.waiting stream with
  | nil =>
    rw [answer_of_idle waits]
    split_ifs with ended <;> simp [ended]
  | cons message rest =>
    rw [receive_of_waiting waits]
    simp

theorem receive_of_idle (idle : broker.waiting stream = [])
    (notPending : (broker.receive stream).1 ≠ .pending) : (broker.receive stream).1 = .ended := by
  rw [answer_of_idle idle] at notPending ⊢
  split_ifs at notPending ⊢
  · rfl
  · exact absurd rfl notPending

theorem isMember_iff_mem : broker.isMember stream topic = true ↔
    ∃ member ∈ broker.members topic, member.stream = stream := by
  rw [isMember_iff]
  unfold members
  cases broker.topic? topic <;> simp

/-- A stream has ended when it does not serve its topic any more. -/
theorem Subscribed.hasEnded_iff {since : List Event}
    (subscribed : Subscribed events stream topic group since) :
    (empty.run events).hasEnded stream = true ↔ ¬Serves events stream topic group := by
  obtain ⟨was, line⟩ := subscribed.line
  rw [ledger_getElem?] at line
  obtain ⟨s, found, isLine⟩ := Option.map_eq_some_iff.mp line
  obtain ⟨rfl, rfl⟩ := Prod.mk.inj isLine
  have isOpen : (empty.run events).isOpen stream = true ↔ s.state = .opened := by
    unfold Broker.isOpen
    rw [found]
    exact beq_iff_eq
  have ended : (empty.run events).hasEnded stream = true ↔
      ¬((empty.run events).isMember stream s.topic = true ∧ s.state = .opened) := by
    unfold hasEnded
    rw [found]
    dsimp only
    rw [Bool.or_eq_true, bne_iff_ne, Bool.not_eq_true', not_and_or, Bool.not_eq_true, or_comm]
  rw [ended, ← mem_openMembers_run, mem_openMembers, isOpen]
  refine not_congr (and_congr_left fun _ => ⟨fun isMember => ?_, fun inside => ?_⟩)
  · obtain ⟨⟨_, group'⟩, inside, rfl⟩ := isMember_iff_mem.mp isMember
    obtain ⟨since', subscribed'⟩ := subscribed_of_mem_members inside
    obtain ⟨-, rfl, -⟩ := subscribed.unique subscribed'
    exact inside
  · exact isMember_iff_mem.mpr ⟨_, inside, rfl⟩

/-- A stream without messages waits for more as long as it serves its topic. -/
theorem Subscribed.pending_iff {since : List Event}
    (subscribed : Subscribed events stream topic group since)
    (idle : (empty.run events).waiting stream = []) :
    ((empty.run events).receive stream).1 = .pending ↔ Serves events stream topic group := by
  rw [← not_iff_not, ← subscribed.hasEnded_iff, answer_of_idle idle]
  split_ifs with ended <;> simp [ended]

/-! ## Taking all that waits -/

/-- The run that goes on by asking a stream a number of times. -/
def askAgain (events : List Event) (stream count : Nat) : List Event :=
  events ++ List.replicate count (.receive stream)

theorem askAgain_succ {count : Nat} :
    askAgain events stream (count + 1) = askAgain events stream count ++ [.receive stream] := by
  unfold askAgain
  rw [List.replicate_succ', List.append_assoc]

theorem handed_askAgain (count : Nat) :
    handed (askAgain events stream count) n = handed events n := by
  induction count with
  | zero => exact congrArg (handed · n) (List.append_nil events)
  | succ count ih => rw [askAgain_succ, handed_concat, ih, handedAt, List.append_nil]

theorem serves_askAgain (count : Nat) : Serves (askAgain events stream count) n topic group ↔
    Serves events n topic group := by
  induction count with
  | zero => exact Iff.of_eq (congrArg (Serves · n topic group) (List.append_nil events))
  | succ count ih =>
    rw [askAgain_succ, serves_append, ih]
    simp [Event.Ends, Joins]

theorem waiting_askAgain (count : Nat) :
    (empty.run (askAgain events stream count)).waiting stream =
      ((empty.run events).waiting stream).drop count := by
  induction count with
  | zero => exact congrArg (fun es => (empty.run es).waiting stream) (List.append_nil events)
  | succ count ih =>
    have asked := @taken_append_waiting_receive (empty.run (askAgain events stream count)) stream
      stream
    rw [takenAt, if_pos rfl, ih] at asked
    rw [askAgain_succ, run_append, ← List.tail_drop]
    unfold after
    dsimp only
    cases waits : ((empty.run events).waiting stream).drop count with
    | nil =>
      rw [waits, List.append_eq_nil_iff] at asked
      exact asked.2
    | cons message rest =>
      rw [receive_of_waiting (ih.trans waits), waits] at asked
      exact (List.cons.inj asked).2

/-- A stream that is asked as often as messages wait for it has yielded all of them. -/
theorem taken_askAgain (notDropped : .drop stream ∉ events) :
    taken (askAgain events stream ((empty.run events).waiting stream).length) stream =
      handed events stream := by
  have stillNotDropped :
      .drop stream ∉ askAgain events stream ((empty.run events).waiting stream).length := by
    unfold askAgain
    simp [notDropped]
  have balance := taken_append_waiting stillNotDropped
  rw [waiting_askAgain, List.drop_length, List.append_nil, handed_askAgain] at balance
  exact balance

/-! ## Deliveries -/

/-- After any run from the start, the open members of a topic are the streams that serve it. A
message is counted once for each group that is served, is appended to the queue of one stream that
serves the group, and changes no other stream. What a stream has yielded is the beginning of what
was handed to it, which are messages in the order in which they were published; a stream that was
not dropped yields all the rest when it is asked on, and then has to wait if it serves its topic
still, or has ended otherwise. After its service has ended nothing more is handed to it. Closing a
stream takes no other member from any topic, and members are of subscriptions to that topic. -/
theorem run_deliveries (events : List Event) :
    let broker := empty.run events
    (∀ stream topic group,
      ⟨stream, group⟩ ∈ broker.openMembers topic ↔ Serves events stream topic group) ∧
    (∀ topic payload,
      let receivers := broker.receivers topic
      (receivers.map (·.group)).Nodup ∧
      (∀ group, group ∈ receivers.map (·.group) ↔ ∃ stream, Serves events stream topic group) ∧
      (∀ member ∈ receivers, Serves events member.stream topic member.group) ∧
      (receivers.map (·.stream)).Nodup ∧
      (broker.publish topic payload).1 = receivers.length ∧
      ∀ stream, (broker.publish topic payload).2.streams[stream]? =
        (broker.streams[stream]?).map fun s =>
          if stream ∈ receivers.map (·.stream) then s.push ⟨topic, payload⟩ else s) ∧
    (∀ stream topic group since, Subscribed events stream topic group since →
      taken events stream <+: handed events stream ∧
      (handed events stream).Sublist (published events) ∧
      (.drop stream ∉ events → ∃ rest, handed events stream = taken events stream ++ rest ∧
        (∀ message ∈ rest.head?, (broker.receive stream).1 = .message message) ∧
        let drained := askAgain events stream rest.length
        taken drained stream = handed events stream ∧
        (Serves events stream topic group →
          ((empty.run drained).receive stream).1 = .pending) ∧
        (¬Serves events stream topic group →
          ((empty.run drained).receive stream).1 = .ended)) ∧
      (¬Serves events stream topic group →
        ∀ later, handed (events ++ later) stream = handed events stream)) ∧
    ∀ stream topic,
      (broker.close stream).members topic =
        (broker.members topic).filter (·.stream != stream) ∧
      ∀ member ∈ broker.members topic,
        ∃ since, Subscribed events member.stream topic member.group since := by
  intro broker
  refine ⟨fun _ _ _ => mem_openMembers_run, ?_, ?_, ?_⟩
  · intro topic payload receivers
    refine ⟨nodup_groups, fun group => ?_, fun member inside => ?_,
      (single_run events).nodup_receivers, publish_count payload,
      fun stream => (single_run events).publish_streams payload⟩
    · rw [map_group_receivers, mem_groups]
      exact exists_congr fun stream => mem_openMembers_run
    · exact mem_openMembers_run.mp (mem_openMembers_of_receivers inside)
  · intro stream topic group since subscribed
    refine ⟨taken_isPrefix events stream, handed_sublist events stream, fun notDropped => ?_,
      handed_of_not_serves subscribed⟩
    have idle : (empty.run (askAgain events stream (broker.waiting stream).length)).waiting
        stream = [] := by
      rw [waiting_askAgain]
      exact List.drop_length
    have answer := (subscribed.append (List.replicate (broker.waiting stream).length
      (.receive stream))).pending_iff idle
    rw [show events ++ _ = askAgain events stream (broker.waiting stream).length from rfl,
      serves_askAgain] at answer
    refine ⟨broker.waiting stream, (taken_append_waiting notDropped).symm, ?_,
      taken_askAgain notDropped, answer.mpr, fun ended => ?_⟩
    · intro message isHead
      obtain ⟨rest, waits⟩ := List.head?_eq_some_iff.mp isHead
      exact receive_of_waiting waits
    · exact receive_of_idle idle fun pending => ended (answer.mp pending)
  · intro stream topic
    exact ⟨(enrolled_run events).members_close, fun member => subscribed_of_mem_members⟩

/-- Two members of a group take turns, the only member of another group gets everything. -/
example :
    let events : List Event := [.subscribe "load" "work", .subscribe "load" "work",
      .subscribe "load" "audit", .publish "load" [1], .publish "load" [2]]
    (handed events 0, handed events 1, handed events 2) =
      ([⟨"load", [1]⟩], [⟨"load", [2]⟩], [⟨"load", [1]⟩, ⟨"load", [2]⟩]) := by
  decide +kernel

end TopicAlerts.Broker
