import Mathlib.Data.Int.CardIntervalMod
import TopicAlerts.Proofs.Delivery

/-!
# Members take turns

In each group a message goes to the member at whose place the cursor of the topic is, modulo the
size of the group. While the members of a topic stay the same, the cursor moves on by one with every
message on that topic and with nothing else (`Broker.cursor_after_of_mem`), so the messages that a
member is handed are counted by a residue (`Broker.share_eq_count`). How many numbers of a range
have a residue depends on the place of the range by at most one (`count_shifted_mod`), and therefore
`Broker.run_shares`: the members of a group share any number of messages evenly, in all groups of
the topic at once.

The cursor is a word that goes back to zero after `2 ^ 64` messages, where a group of three members
would see one of them served twice in a row. So the messages are counted from a time at which the
topic had no state.
-/

namespace TopicAlerts

/-- Of so many numbers in a row, one in `size` has a residue, and perhaps one more. -/
theorem count_shifted_mod {size place : Nat} (hplace : place < size) (start count : Nat) :
    Nat.count (fun i => (start + i) % size = place) count = count / size ∨
      Nat.count (fun i => (start + i) % size = place) count = count / size + 1 := by
  -- counting from `start` on is counting from zero on with another residue
  have hshift (i : Nat) :
      (start + i) % size = place ↔ i ≡ place + (size - start % size) [MOD size] := by
    have hrest : start % size < size := Nat.mod_lt _ (Nat.zero_lt_of_lt hplace)
    have hround : start + (place + (size - start % size)) = place + size * (start / size + 1) := by
      have hdivision := Nat.mod_add_div start size
      rw [Nat.mul_add, Nat.mul_one]
      omega
    have hsame : start + (place + (size - start % size)) ≡ place [MOD size] := by
      rw [hround]
      exact Nat.add_mul_mod_self_left _ _ _
    constructor
    · intro hresidue
      refine Nat.ModEq.add_left_cancel' start ?_
      refine Nat.ModEq.trans ?_ hsame.symm
      rw [Nat.ModEq, hresidue, Nat.mod_eq_of_lt hplace]
    · intro hcongruent
      have hall : start + i ≡ place [MOD size] := (hcongruent.add_left start).trans hsame
      rwa [Nat.ModEq, Nat.mod_eq_of_lt hplace] at hall
  simp only [hshift]
  rw [Nat.count_modEq_card _ (Nat.zero_lt_of_lt hplace)]
  split_ifs
  · exact .inr rfl
  · exact .inl rfl

namespace Broker

/-- Whether a message is published on the topic at an event. -/
def Event.publishesOn (topic : String) : Event → Bool
  | .publish other _ => other == topic
  | .subscribe _ _ | .receive _ | .close _ | .drop _ | .disconnect _ | .reject _ | .accept _ =>
    false

/-- How many messages are published on a topic in the course of some events. -/
def volume (topic : String) (events : List Event) : Nat := events.countP (·.publishesOn topic)

/-- No event changes who the open members of a topic are. -/
def Steady (topic : String) (broker : Broker) : List Event → Prop
  | [] => True
  | event :: rest =>
    ((broker.after event).openMembers topic).Perm (broker.openMembers topic) ∧
      Steady topic (broker.after event) rest

instance decidableSteady (topic : String) :
    (broker : Broker) → (events : List Event) → Decidable (broker.Steady topic events)
  | _, [] => .isTrue trivial
  | broker, event :: rest =>
    have := decidableSteady topic (broker.after event) rest
    inferInstanceAs (Decidable (_ ∧ _))

/-- The open members of a topic in a group. -/
def peers (broker : Broker) (topic group : String) : List Member :=
  (broker.openMembers topic).filter (·.group == group)

/-- The messages that are handed to a stream in the course of some events. -/
def share (broker : Broker) (events : List Event) (stream : Nat) : List Message :=
  collect (handedAt stream) broker events

/-- The messages that a stream yields in the course of some events. -/
def yield (broker : Broker) (events : List Event) (stream : Nat) : List Message :=
  collect (takenAt stream) broker events

variable {broker : Broker} {event : Event} {events : List Event} {topic other group : String}
  {stream : Nat} {member : Member}

/-! ## The members -/

/-- An event takes open members from a topic or leaves them as they are, or a new stream becomes the
last of them. -/
theorem Enrolled.openMembers_after (henrolled : broker.Enrolled) (event : Event) (topic : String) :
    ((broker.after event).openMembers topic).Sublist (broker.openMembers topic) ∨
      ∃ group, (broker.after event).openMembers topic =
        broker.openMembers topic ++ [⟨broker.streams.length, group⟩] := by
  cases event with
  | subscribe other group =>
    unfold Broker.after
    dsimp only
    by_cases haccepted : other ∉ broker.rejected
    · rw [henrolled.openMembers_subscribe haccepted]
      split_ifs
      · exact .inr ⟨group, rfl⟩
      · exact .inl (List.Sublist.refl _)
    · rw [subscribe_of_rejected (not_not.mp haccepted)]
      exact .inl (List.Sublist.refl _)
  | publish other payload => exact .inl (by rw [Broker.after, openMembers_publish])
  | receive n => exact .inl (by rw [Broker.after, openMembers_receive])
  | close n =>
    left
    rw [Broker.after, henrolled.openMembers_close]
    exact List.filter_sublist
  | drop n =>
    left
    rw [Broker.after, openMembers_drop]
    exact List.filter_sublist
  | disconnect other =>
    left
    rw [Broker.after, openMembers_disconnect]
    split_ifs
    · exact List.nil_sublist _
    · exact List.Sublist.refl _
  | reject other | accept other => exact .inl (List.Sublist.refl _)

/-- Members that stay keep their places. -/
theorem Enrolled.openMembers_eq_of_perm (henrolled : broker.Enrolled)
    (hsame : ((broker.after event).openMembers topic).Perm (broker.openMembers topic)) :
    (broker.after event).openMembers topic = broker.openMembers topic := by
  rcases henrolled.openMembers_after event topic with hfewer | ⟨group, hmore⟩
  · exact hfewer.eq_of_length hsame.length_eq
  · have hlength := hsame.length_eq
    rw [hmore, List.length_append, List.length_singleton] at hlength
    omega

theorem nodup_openMembers_run (events : List Event) (topic : String) :
    ((empty.run events).openMembers topic).Nodup := by
  induction events using List.reverseRecOn with
  | nil => exact List.nodup_nil
  | append_singleton events event ih =>
    rw [run_append]
    rcases (enrolled_run events).openMembers_after event topic with hfewer | ⟨group, hmore⟩
    · exact ih.sublist hfewer
    · rw [hmore, ← List.concat_eq_append]
      refine ih.concat fun hold => ?_
      exact Nat.lt_irrefl _ ((enrolled_run events).stream_lt (mem_openMembers.mp hold).1)

/-! ## The cursor -/

theorem cursor_subscribe :
    (broker.subscribe topic group).2.cursor other = broker.cursor other := by
  by_cases haccepted : topic ∉ broker.rejected
  · unfold cursor
    by_cases hsame : other = topic
    · subst hsame
      simp only [subscribe, List.contains_eq_mem, haccepted, decide_false, Bool.false_eq_true,
        if_false]
      rw [topic?_setTopic_self]
      show ((broker.topic? other).getD ⟨[], 0⟩).cursor = _
      cases broker.topic? other <;> rfl
    · rw [subscribe_topic?_of_ne haccepted hsame]
  · rw [subscribe_of_rejected (not_not.mp haccepted)]
    rfl

theorem cursor_publish (payload : List UInt8) :
    (broker.publish topic payload).2.cursor other =
      if other = topic ∧ (broker.topic? other).isSome then broker.cursor other + 1
      else broker.cursor other := by
  rcases @publish_cases broker topic payload with
    ⟨hnothing, hsame⟩ | ⟨state, streams, hlisted, -, hpublished⟩
  · rw [hsame, if_neg]
    rintro ⟨rfl, hsome⟩
    rw [hnothing] at hsome
    cases hsome
  · have htopics : (broker.publish topic payload).2.topic? other = (broker.setTopic topic
        ⟨state.members.filter fun member => broker.isOpen member.stream,
          state.cursor + 1⟩).topic? other := by
      rw [hpublished]
      rfl
    unfold cursor
    rw [htopics]
    by_cases hsame : other = topic
    · subst hsame
      rw [topic?_setTopic_self, hlisted]
      simp
    · rw [topic?_setTopic_of_ne _ hsame, if_neg fun hboth => hsame hboth.1]

theorem cursor_receive : (broker.receive stream).2.cursor topic = broker.cursor topic := by
  obtain ⟨streams, -, hreceived⟩ := @receive_cases broker stream
  rw [hreceived]
  rfl

theorem cursor_close : (broker.close stream).cursor topic = broker.cursor topic := by
  unfold cursor
  cases hfound : broker.streams[stream]? with
  | none =>
    unfold close
    rw [hfound]
  | some s =>
    rw [topic?_close hfound]
    split_ifs
    · cases broker.topic? topic <;> rfl
    · rfl

theorem cursor_disconnect : (broker.disconnect topic).cursor other =
    if other = topic then 0 else broker.cursor other := by
  unfold cursor
  rw [topic?_disconnect]
  split_ifs <;> rfl

/-- An event moves the cursor on by at most one, and only if it publishes a message. -/
theorem cursor_after_le : ((broker.after event).cursor topic).toNat ≤
    (broker.cursor topic).toNat + if event.publishesOn topic then 1 else 0 := by
  unfold after
  cases event with
  | subscribe other group => exact (congrArg UInt64.toNat cursor_subscribe).le
  | publish other payload =>
    dsimp only
    rw [cursor_publish]
    split_ifs with hmoves hother
    · rw [UInt64.toNat_add]
      exact Nat.mod_le _ _
    · exact absurd (beq_iff_eq.mpr hmoves.1.symm) hother
    · exact Nat.le_succ _
    · exact Nat.le_refl _
  | receive n => exact (congrArg UInt64.toNat cursor_receive).le
  | close n => exact (congrArg UInt64.toNat cursor_close).le
  | disconnect other =>
    dsimp only
    rw [cursor_disconnect]
    by_cases hsame : topic = other
    · rw [if_pos hsame]
      exact Nat.zero_le _
    · rw [if_neg hsame]
      exact Nat.le_refl _
  | drop n | reject other | accept other => exact Nat.le_refl _

theorem cursor_run_le : ((broker.run events).cursor topic).toNat ≤
    (broker.cursor topic).toNat + volume topic events := by
  induction events generalizing broker with
  | nil => exact Nat.le_refl _
  | cons event rest ih =>
    have hfirst := @cursor_after_le broker event topic
    have hrest := @ih (broker.after event)
    unfold volume at hrest ⊢
    rw [List.countP_cons]
    show (((broker.after event).run rest).cursor topic).toNat ≤ _
    omega

/-- While a topic keeps an open member, its cursor counts the messages on it. -/
theorem cursor_after_of_mem (hmember : member ∈ broker.openMembers topic)
    (hstays : member ∈ (broker.after event).openMembers topic) :
    (broker.after event).cursor topic =
      broker.cursor topic + if event.publishesOn topic then 1 else 0 := by
  have hnothing : broker.cursor topic = broker.cursor topic + 0 := (UInt64.add_zero _).symm
  unfold after at hstays ⊢
  cases event with
  | subscribe other group => exact cursor_subscribe.trans hnothing
  | publish other payload =>
    have hsome : (broker.topic? topic).isSome := by
      unfold openMembers at hmember
      cases hlisted : broker.topic? topic with
      | none =>
        rw [hlisted] at hmember
        cases hmember
      | some state => rfl
    dsimp only
    rw [cursor_publish]
    by_cases hsame : topic = other
    · simp [Event.publishesOn, hsame.symm, hsome]
    · simp [Event.publishesOn, hsame, Ne.symm hsame]
  | receive n => exact cursor_receive.trans hnothing
  | close n => exact cursor_close.trans hnothing
  | disconnect other =>
    dsimp only at hstays ⊢
    rw [openMembers_disconnect] at hstays
    by_cases hsame : topic = other
    · rw [if_pos hsame] at hstays
      cases hstays
    · rw [cursor_disconnect, if_neg hsame]
      exact hnothing
  | drop n | reject other | accept other => exact hnothing

/-! ## Whose turn it is -/

theorem mem_receivers_iff (hmember : member ∈ broker.openMembers topic) :
    member ∈ broker.receivers topic ↔
      chosen? (broker.openMembers topic) (broker.cursor topic) member.group = some member := by
  unfold receivers
  rw [List.mem_filterMap]
  constructor
  · rintro ⟨group, -, hchosen⟩
    obtain ⟨-, rfl⟩ := mem_of_chosen hchosen
    exact hchosen
  · intro hchosen
    exact ⟨member.group, mem_groups.mpr ⟨member.stream, hmember⟩, hchosen⟩

/-- It is the turn of the member at whose place the cursor is. -/
theorem mem_receivers_iff_mod {place : Nat} (hnodup : (broker.openMembers topic).Nodup)
    (hplace : (broker.peers topic member.group)[place]? = some member) :
    member ∈ broker.receivers topic ↔
      (broker.cursor topic).toNat % (broker.peers topic member.group).length = place := by
  have hinside : member ∈ broker.peers topic member.group := List.mem_of_getElem? hplace
  have hpositive : 0 < (broker.peers topic member.group).length := List.length_pos_of_mem hinside
  rw [mem_receivers_iff (List.mem_filter.mp hinside).1]
  show (broker.peers topic member.group)[(broker.cursor topic).toNat %
    max (broker.peers topic member.group).length 1]? = some member ↔ _
  rw [Nat.max_eq_left hpositive, ← hplace]
  exact List.getElem?_inj (Nat.mod_lt _ hpositive) (hnodup.filter _)

/-- A stream is handed messages on its own topic only. -/
theorem eq_of_mem_receivers (hmember : member ∈ (empty.run events).openMembers topic)
    (hhanded : member.stream ∈ ((empty.run events).receivers other).map (·.stream)) :
    other = topic := by
  obtain ⟨twin, hinside, htwin⟩ := List.mem_map.mp hhanded
  obtain ⟨_, hline⟩ := enrolled_run events other twin
    (mem_openMembers.mp (mem_openMembers_of_receivers hinside)).1
  obtain ⟨_, hown⟩ := enrolled_run events topic member (mem_openMembers.mp hmember).1
  rw [htwin, hown] at hline
  exact (congrArg Prod.fst (Option.some.inj hline)).symm

/-- An event hands a member the message that it publishes on the topic, if it is the turn of the
member. -/
theorem length_handedAt {place : Nat}
    (hplace : ((empty.run events).peers topic member.group)[place]? = some member) :
    (handedAt member.stream (empty.run events) event).length =
      if event.publishesOn topic ∧ ((empty.run events).cursor topic).toNat %
        ((empty.run events).peers topic member.group).length = place then 1 else 0 := by
  have hmember : member ∈ (empty.run events).openMembers topic :=
    (List.mem_filter.mp (List.mem_of_getElem? hplace)).1
  cases event with
  | publish other payload =>
    rw [handedAt]
    by_cases hsame : other = topic
    · subst hsame
      -- no two members have the same stream, so the stream is handed the message with its member
      have hhanded : member.stream ∈ ((empty.run events).receivers other).map (·.stream) ↔
          member ∈ (empty.run events).receivers other := by
        refine ⟨fun hstream => ?_, List.mem_map_of_mem⟩
        obtain ⟨twin, hinside, htwin⟩ := List.mem_map.mp hstream
        rwa [← single_run events other twin (mem_openMembers_of_receivers hinside) member hmember
          htwin]
      rw [mem_receivers_iff_mod (nodup_openMembers_run events other) hplace] at hhanded
      simp only [hhanded, Event.publishesOn, beq_self_eq_true, true_and]
      split_ifs <;> rfl
    · rw [if_neg fun hhanded => hsame (eq_of_mem_receivers hmember hhanded), if_neg]
      · rfl
      · rintro ⟨hpublishes, -⟩
        exact hsame (beq_iff_eq.mp hpublishes)
  | subscribe | receive | close | drop | disconnect | reject | accept =>
    simp [handedAt, Event.publishesOn]

/-! ## Steady members -/

section Steady

variable {window : List Event}

theorem Steady.openMembers_eq (hsteady : (empty.run events).Steady topic (event :: window)) :
    (empty.run (events ++ [event])).openMembers topic =
      (empty.run events).openMembers topic := by
  rw [run_append]
  exact (enrolled_run events).openMembers_eq_of_perm hsteady.1

theorem Steady.tail (hsteady : (empty.run events).Steady topic (event :: window)) :
    (empty.run (events ++ [event])).Steady topic window := by
  rw [run_append]
  exact hsteady.2

theorem share_cons : (empty.run events).share (event :: window) stream =
    handedAt stream (empty.run events) event ++
      (empty.run (events ++ [event])).share window stream := by
  rw [run_append]
  rfl

/-- What a member yields and what waits for it in the end is what waited for it before and its
share. -/
theorem Steady.yield_append_waiting (hsteady : (empty.run events).Steady topic window)
    (hmember : member ∈ (empty.run events).openMembers topic) :
    (empty.run events).yield window member.stream ++
        (empty.run (events ++ window)).waiting member.stream =
      (empty.run events).waiting member.stream ++
        (empty.run events).share window member.stream := by
  induction window generalizing events with
  | nil =>
    rw [List.append_nil]
    exact (List.append_nil _).symm
  | cons event rest ih =>
    have hstays : member ∈ (empty.run (events ++ [event])).openMembers topic :=
      hsteady.openMembers_eq ▸ hmember
    -- a stream that is dropped is no open member
    have hlossless : event = .drop member.stream →
        (empty.run events).waiting member.stream = [] := by
      rintro rfl
      rw [run_append] at hstays
      have hopen := (mem_openMembers.mp hstays).2
      rw [after, isOpen_drop] at hopen
      simp at hopen
    have hfirst := (single_run events).taken_append_waiting hlossless
    have hrest := ih hsteady.tail hstays
    have hyield : (empty.run events).yield (event :: rest) member.stream =
        takenAt member.stream (empty.run events) event ++
          (empty.run (events ++ [event])).yield rest member.stream := by
      rw [run_append]
      rfl
    rw [List.append_assoc, List.singleton_append] at hrest
    rw [hyield, List.append_assoc, hrest, share_cons, ← List.append_assoc, ← List.append_assoc,
      ← hfirst, run_append]

theorem Steady.topic_of_mem_share (hsteady : (empty.run events).Steady topic window)
    (hmember : member ∈ (empty.run events).openMembers topic) {message : Message}
    (hmessage : message ∈ (empty.run events).share window member.stream) :
    message.topic = topic := by
  induction window generalizing events with
  | nil => cases hmessage
  | cons event rest ih =>
    rw [share_cons] at hmessage
    rcases List.mem_append.mp hmessage with hfirst | hlater
    · cases event with
      | publish other payload =>
        rw [handedAt] at hfirst
        split_ifs at hfirst with hhanded
        · rw [List.mem_singleton.mp hfirst]
          exact eq_of_mem_receivers hmember hhanded
        · cases hfirst
      | subscribe | receive | close | drop | disconnect | reject | accept => cases hfirst
    · exact ih hsteady.tail (hsteady.openMembers_eq ▸ hmember) hlater

/-- A member is handed the messages whose number, counted on from the cursor, has the residue of its
place. -/
theorem Steady.length_share {place : Nat} (hsteady : (empty.run events).Steady topic window)
    (hplace : ((empty.run events).peers topic member.group)[place]? = some member)
    (hfew : ((empty.run events).cursor topic).toNat + volume topic window < 2 ^ 64) :
    ((empty.run events).share window member.stream).length =
      Nat.count (fun i => (((empty.run events).cursor topic).toNat + i) %
        ((empty.run events).peers topic member.group).length = place) (volume topic window) := by
  induction window generalizing events with
  | nil => rfl
  | cons event rest ih =>
    have hmember : member ∈ (empty.run events).openMembers topic :=
      (List.mem_filter.mp (List.mem_of_getElem? hplace)).1
    have hpeers : (empty.run (events ++ [event])).peers topic member.group =
        (empty.run events).peers topic member.group := by
      rw [peers, hsteady.openMembers_eq, peers]
    have hcursor : (empty.run (events ++ [event])).cursor topic =
        (empty.run events).cursor topic + if event.publishesOn topic then 1 else 0 := by
      have hstays := hsteady.openMembers_eq ▸ hmember
      rw [run_append] at hstays ⊢
      exact cursor_after_of_mem hmember hstays
    have hvolume : volume topic (event :: rest) =
        volume topic rest + if event.publishesOn topic then 1 else 0 := List.countP_cons
    have hrest := ih hsteady.tail
    rw [hpeers, hcursor] at hrest
    rw [hvolume] at hfew ⊢
    rw [share_cons, List.length_append, length_handedAt hplace]
    cases hpublishes : event.publishesOn topic with
    | true =>
      -- the first message is counted apart, the others from the next number on
      simp only [hpublishes, if_true, true_and] at hrest hfew ⊢
      have hnext : ((empty.run events).cursor topic + 1).toNat =
          ((empty.run events).cursor topic).toNat + 1 := by
        rw [UInt64.toNat_add]
        exact Nat.mod_eq_of_lt (by show _ + 1 < _; omega)
      rw [hnext] at hrest
      rw [hrest hplace (by omega), Nat.count_succ', Nat.add_comm]
      simp only [Nat.add_zero, Nat.add_assoc, Nat.add_comm 1]
    | false =>
      simp only [hpublishes, Bool.false_eq_true, if_false, false_and, Nat.zero_add, Nat.add_zero,
        UInt64.add_zero] at hrest hfew ⊢
      exact hrest hplace hfew

end Steady

/-! ## Fair shares -/

/-- After any run from the start, some events follow that do not change the members of a topic, and
there are fewer than `2 ^ 64` messages on the topic since a time at which it had no state. What a
member yields then and what waits for it in the end is what waited for it before and its share,
which are messages on the topic. The shares in a group are equal parts of the messages that are
published on the topic, rounded down, or by one more than that; so no share has two messages more
than another one. -/
theorem run_shares {earlier since window : List Event} {topic : String}
    (habsent : (empty.run earlier).topic? topic = none)
    (hfew : volume topic (since ++ window) < 2 ^ 64)
    (hsteady : (empty.run (earlier ++ since)).Steady topic window) :
    let broker := empty.run (earlier ++ since)
    ∀ member ∈ broker.openMembers topic,
      let share := broker.share window member.stream
      let part := volume topic window / (broker.peers topic member.group).length
      broker.yield window member.stream ++
          (empty.run (earlier ++ since ++ window)).waiting member.stream =
        broker.waiting member.stream ++ share ∧
      (∀ message ∈ share, message.topic = topic) ∧
      (share.length = part ∨ share.length = part + 1) ∧
      ∀ other ∈ broker.openMembers topic, other.group = member.group →
        (broker.share window other.stream).length ≤ share.length + 1 := by
  intro broker
  have hcursor : (broker.cursor topic).toNat ≤ volume topic since := by
    have hnew : (empty.run earlier).cursor topic = 0 := by
      unfold cursor
      rw [habsent]
      rfl
    have hcounted := @cursor_run_le (empty.run earlier) since topic
    rw [hnew] at hcounted
    have hrun : broker = (empty.run earlier).run since := List.foldl_append
    rw [hrun]
    simpa using hcounted
  have hbelow : (broker.cursor topic).toNat + volume topic window < 2 ^ 64 := by
    have hvolume : volume topic (since ++ window) = volume topic since + volume topic window :=
      List.countP_append
    omega
  have hpart (member : Member) (hmember : member ∈ broker.openMembers topic) :
      (broker.share window member.stream).length =
          volume topic window / (broker.peers topic member.group).length ∨
        (broker.share window member.stream).length =
          volume topic window / (broker.peers topic member.group).length + 1 := by
    have hinside : member ∈ broker.peers topic member.group :=
      List.mem_filter.mpr ⟨hmember, beq_self_eq_true _⟩
    obtain ⟨place, hbound, hplace⟩ := List.getElem_of_mem hinside
    rw [hsteady.length_share (List.getElem?_eq_some_iff.mpr ⟨hbound, hplace⟩) hbelow]
    exact count_shifted_mod hbound _ _
  intro member hmember share part
  refine ⟨hsteady.yield_append_waiting hmember,
    fun message hmessage => hsteady.topic_of_mem_share hmember hmessage, hpart member hmember,
    fun other hother hgroup => ?_⟩
  have hshare := hpart member hmember
  have hshare' := hpart other hother
  rw [hgroup] at hshare'
  show (broker.share window other.stream).length ≤ (broker.share window member.stream).length + 1
  omega

/-- Three members of one group and one of another, who are joined by a second one. -/
def mixedGroups : List Event :=
  [.subscribe "load" "work", .subscribe "load" "work", .subscribe "load" "audit",
    .publish "load" [0], .subscribe "load" "work", .subscribe "load" "audit"]

/-- Messages on two topics, among other events. -/
def mixedMessages : List Event :=
  [.publish "load" [1], .subscribe "disk" "work", .publish "load" [2], .receive 1,
    .publish "disk" [3], .reject "load", .publish "load" [4], .publish "load" [5]]

/-- Four messages are shared by three members of one group and by two of the other. -/
theorem mixedGroups_shares :
    let shareOf (stream : Nat) := (empty.run mixedGroups).share mixedMessages stream
    ((shareOf 0).length = 1 ∨ (shareOf 0).length = 2) ∧
      (shareOf 1).length ≤ (shareOf 0).length + 1 ∧
      ((shareOf 2).length = 2 ∨ (shareOf 2).length = 3) ∧
      (shareOf 4).length ≤ (shareOf 2).length + 1 := by
  intro shareOf
  have hshares := @run_shares [] mixedGroups mixedMessages "load" rfl (by decide)
    (by decide +kernel)
  have hmembers : (empty.run ([] ++ mixedGroups)).openMembers "load" =
      [⟨0, "work"⟩, ⟨1, "work"⟩, ⟨2, "audit"⟩, ⟨3, "work"⟩, ⟨4, "audit"⟩] := by decide +kernel
  obtain ⟨-, -, hwork, hworkers⟩ := hshares ⟨0, "work"⟩ (by rw [hmembers]; decide)
  obtain ⟨-, -, haudit, hauditors⟩ := hshares ⟨2, "audit"⟩ (by rw [hmembers]; decide)
  exact ⟨hwork, hworkers ⟨1, "work"⟩ (by rw [hmembers]; decide) rfl, haudit,
    hauditors ⟨4, "audit"⟩ (by rw [hmembers]; decide) rfl⟩

end Broker

end TopicAlerts
