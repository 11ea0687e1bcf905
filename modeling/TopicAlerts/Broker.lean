import TopicAlerts.Text.Utf8

/-!
# The broker

Streams subscribe to a topic as members of a consumer group. A message that is published on the
topic goes to one open member of each group, the members of a group taking turns: one cursor for
the topic moves on with every message.

A stream that is closed is a member no more; a stream that is dropped stays one until the next
message. When a topic is disconnected all its members are gone. What was queued for a stream can
still be received when it is closed or disconnected.
-/

namespace TopicAlerts

/-- A message as the broker carries it. -/
structure Broker.Message where
  /-- The topic that it was published on. -/
  topic : String
  /-- Its bytes. -/
  payload : List UInt8
deriving DecidableEq, Repr

/-- The text of a message. -/
def Broker.Message.text (message : Broker.Message) : String := Utf8.lossy message.payload

/-- What became of a stream. -/
inductive Broker.StreamState
  /-- It may receive. -/
  | opened
  /-- It was closed by its owner. -/
  | closed
  /-- Its owner dropped it. -/
  | dropped
deriving DecidableEq, Repr

/-- The receiving end of a subscription. -/
structure Broker.Stream where
  /-- The topic that was subscribed to. -/
  topic : String
  /-- The messages that are waiting, the oldest first. -/
  queue : List Broker.Message
  /-- What became of the stream. -/
  state : Broker.StreamState
deriving DecidableEq, Repr

/-- A member of a consumer group on a topic. -/
structure Broker.Member where
  /-- Its stream. -/
  stream : Nat
  /-- The group. -/
  group : String
deriving DecidableEq, Repr

/-- The members of a topic. -/
structure Broker.TopicState where
  /-- The members in the order of their subscription. -/
  members : List Broker.Member
  /-- How many messages were published since the topic has members, as a 64-bit word. -/
  cursor : UInt64
deriving Repr

/-- The broker. -/
structure Broker where
  /-- The topics with members. -/
  topics : List (String × Broker.TopicState)
  /-- The topics for which subscriptions are refused. -/
  rejected : List String
  /-- All streams that were ever made; the number of a stream is its place. -/
  streams : List Broker.Stream
  /-- The topics for which a subscription was asked, one for each call. -/
  asked : List String
  /-- How often a stream was closed. -/
  closeCalls : Nat
deriving Repr

/-- What a stream gives when it is asked for a message. -/
inductive Broker.Received
  /-- The next message. -/
  | message (message : Broker.Message)
  /-- Nothing yet. -/
  | pending
  /-- Nothing any more. -/
  | ended
deriving DecidableEq, Repr

namespace Broker

/-- The broker before anything happens. -/
def empty : Broker := ⟨[], [], [], [], 0⟩

/-- How often a subscription was asked for. -/
def subscribeCalls (broker : Broker) : Nat := broker.asked.length

/-- The members of a topic, if it has any or had some. -/
def topic? (broker : Broker) (topic : String) : Option TopicState := broker.topics.lookup topic

/-- Put the state of a topic in a list of topics. -/
def putIn (topic : String) (state : TopicState) :
    List (String × TopicState) → List (String × TopicState)
  | [] => [(topic, state)]
  | (t, s) :: rest => if t = topic then (topic, state) :: rest else (t, s) :: putIn topic state rest

/-- Set the state of a topic. -/
def setTopic (broker : Broker) (topic : String) (state : TopicState) : Broker :=
  { broker with topics := putIn topic state broker.topics }

/-- Change a stream. -/
def modifyStream (broker : Broker) (stream : Nat) (change : Stream → Stream) : Broker :=
  { broker with streams := broker.streams.modify stream change }

/-- Whether a stream may receive. -/
def isOpen (broker : Broker) (stream : Nat) : Bool :=
  match broker.streams[stream]? with
  | some s => s.state == .opened
  | none => false

/-- The open members of a topic. -/
def openMembers (broker : Broker) (topic : String) : List Member :=
  match broker.topic? topic with
  | some state => state.members.filter fun member => broker.isOpen member.stream
  | none => []

/-- How many open members a topic has. -/
def subscriberCount (broker : Broker) (topic : String) : Nat := (broker.openMembers topic).length

/-- Subscribe to a topic as a member of a group, unless that is refused. -/
def subscribe (broker : Broker) (topic group : String) : Option Nat × Broker :=
  let broker := { broker with asked := broker.asked ++ [topic] }
  if broker.rejected.contains topic then (none, broker)
  else
    let stream := broker.streams.length
    let state : TopicState := (broker.topic? topic).getD ⟨[], 0⟩
    let opened : Stream := ⟨topic, [], .opened⟩
    let member : Member := ⟨stream, group⟩
    let broker := { broker with streams := broker.streams ++ [opened] }
    (some stream, broker.setTopic topic { state with members := state.members ++ [member] })

/-- The description of a refused subscription. -/
def refusal (topic : String) : String := "broker: topic '" ++ topic ++ "' unavailable"

/-- The member of a group whose turn it is. -/
def chosen? (members : List Member) (cursor : UInt64) (group : String) : Option Member :=
  let members := members.filter (·.group == group)
  members[cursor.toNat % max members.length 1]?

/-- Publish a message, and count the streams that it goes to. -/
def publish (broker : Broker) (topic : String) (payload : List UInt8) : Nat × Broker :=
  match broker.topic? topic with
  | none => (0, broker)
  | some state =>
    let members := state.members.filter fun member => broker.isOpen member.stream
    let groups := (members.map (·.group)).eraseDups
    let receivers := groups.filterMap (chosen? members state.cursor)
    let broker := broker.setTopic topic ⟨members, state.cursor + 1⟩
    let message : Message := ⟨topic, payload⟩
    (receivers.length, receivers.foldl (fun broker member =>
      broker.modifyStream member.stream fun s => { s with queue := s.queue ++ [message] }) broker)

/-- Whether a stream is still a member of its topic. -/
def isMember (broker : Broker) (stream : Nat) (topic : String) : Bool :=
  match broker.topic? topic with
  | some state => state.members.any (·.stream == stream)
  | none => false

/-- Whether no further message can come to a stream. -/
def hasEnded (broker : Broker) (stream : Nat) : Bool :=
  match broker.streams[stream]? with
  | some s => s.state != .opened || !broker.isMember stream s.topic
  | none => true

/-- Ask a stream for a message. -/
def receive (broker : Broker) (stream : Nat) : Received × Broker :=
  match broker.streams[stream]? with
  | none => (.ended, broker)
  | some s =>
    match s.queue with
    | message :: queue =>
      (.message message, broker.modifyStream stream fun s => { s with queue })
    | [] => (if broker.hasEnded stream then .ended else .pending, broker)

/-- Close a stream: it gets no further messages. -/
def close (broker : Broker) (stream : Nat) : Broker :=
  match broker.streams[stream]? with
  | none => broker
  | some s =>
    let broker := broker.modifyStream stream fun s => { s with state := .closed }
    let broker := match broker.topic? s.topic with
      | some state => broker.setTopic s.topic
          { state with members := state.members.filter (·.stream != stream) }
      | none => broker
    { broker with closeCalls := broker.closeCalls + 1 }

/-- Drop a stream and what is queued for it. -/
def drop (broker : Broker) (stream : Nat) : Broker :=
  broker.modifyStream stream fun s => { s with state := .dropped, queue := [] }

/-- Refuse subscriptions to a topic from now on. -/
def reject (broker : Broker) (topic : String) : Broker :=
  { broker with
    rejected := if broker.rejected.contains topic then broker.rejected
      else topic :: broker.rejected }

/-- Accept subscriptions to a topic from now on. -/
def accept (broker : Broker) (topic : String) : Broker :=
  { broker with rejected := broker.rejected.filter (· != topic) }

/-- Cut off all members of a topic. -/
def disconnect (broker : Broker) (topic : String) : Broker :=
  { broker with topics := broker.topics.filter (·.1 != topic) }

end Broker

end TopicAlerts
