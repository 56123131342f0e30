import RobotMiddleware.Publisher

/-! One shared-memory topic: its publisher, the subscribers that the registry
lists, and the steps of all of them in any order. No process crashes here and
system calls succeed as long as the other end is there. A publisher call is cut
where a subscriber can come between: up to the dispatch, at every enqueue, at
every return of a wait, and at the end. -/

namespace RobotMiddleware
open Std

/-- The subscriber's end of the topic. `inHand` are handles that left the queue
and have become neither a view nor a Release yet: the one that a take is reading,
or those that the destructor gives back. -/
structure SubscriberEnd where
  descriptor : QueueDescriptor
  maxMessageSize : UInt64
  queue : SharedSubscriberQueue
  registered : Bool := true
  alive : Bool := true
  accepted : Bool := false
  unreadWakes : Nat := 0
  poolOpen : Bool := false
  inHand : List ChunkHandle := []
  views : List ChunkHandle := []

/-- The steps of one subscriber and of its views. -/
inductive SubscriberStep where
  | acceptPendingConnection
  | receiveWakeAvailable
  | dequeue (attempt : LockAttempt)
  | read
  | releaseView (handle : ChunkHandle)
  | closeAndDrain (attempt : LockAttempt)
  | releaseDrained
  | unsubscribe
  | hangUp
  | pause

namespace SubscriberEnd

def release (handle : ChunkHandle) : List SocketEvent := (encodeQueueRelease handle).map .byte

/-- One step: the subscriber afterwards and what its socket delivers to the
publisher. `connected` tells whether the publisher has a connection to it. -/
def step (subscriber : SubscriberEnd) (connected : Bool) (pool : MemoryPool) :
    SubscriberStep → Option (SubscriberEnd × List SocketEvent)
  | .acceptPendingConnection =>
    if subscriber.alive ∧ connected ∧ !subscriber.accepted then some ({ subscriber with accepted := true }, []) else none
  | .receiveWakeAvailable =>
    if subscriber.alive ∧ subscriber.accepted ∧ 0 < subscriber.unreadWakes then
      some ({ subscriber with unreadWakes := subscriber.unreadWakes - 1, poolOpen := true }, [])
    else none
  | .dequeue attempt =>
    -- the second half of `tryTakeQueued`; the peek before it only decides whether to come here
    if subscriber.alive ∧ subscriber.accepted ∧ subscriber.poolOpen ∧ subscriber.inHand = [] then
      match subscriber.queue.tryDequeue attempt with
      | (none, queue) => some ({ subscriber with queue }, [])
      | (some handle, queue) => some ({ subscriber with queue, inHand := [handle] }, [])
    else none
  | .read =>
    match subscriber.alive, subscriber.inHand with
    | true, handle :: rest =>
      if (MemoryPoolView.read pool handle subscriber.maxMessageSize).error = .ok then
        some ({ subscriber with inHand := rest, views := handle :: subscriber.views }, [])
      else some ({ subscriber with inHand := rest }, release handle)
    | _, _ => none
  | .releaseView handle =>
    if handle ∈ subscriber.views then
      some ({ subscriber with views := subscriber.views.erase handle }, release handle)
    else none
  | .closeAndDrain attempt =>
    -- the destructor, which first accepts a connection that waits
    if subscriber.alive ∧ subscriber.inHand = [] then
      let closing := { subscriber with alive := false, accepted := subscriber.accepted || connected }
      match subscriber.queue.closeAndDrain attempt with
      | (.error _, queue) => some ({ closing with queue }, [])
      | (.ok handles, queue) => some ({ closing with queue, inHand := if closing.accepted then handles else [] }, [])
    else none
  | .releaseDrained =>
    match subscriber.alive, subscriber.inHand with
    | false, handle :: rest => some ({ subscriber with inHand := rest }, release handle)
    | _, _ => none
  | .unsubscribe =>
    if !subscriber.alive ∧ subscriber.inHand = [] ∧ subscriber.registered then
      some ({ subscriber with registered := false }, [])
    else none
  | .hangUp =>
    -- the socket closes with the last owner of the release context
    if !subscriber.alive ∧ subscriber.inHand = [] ∧ subscriber.views = [] then some (subscriber, [.closed]) else none
  | .pause => some (subscriber, [.wouldBlock])

end SubscriberEnd

/-- Where the publisher is in a call. `remaining` are the endpoints that
`dispatchPublished` still has to serve. -/
inductive PublisherPhase where
  | idle
  | serving (dispatch : Dispatch) (progress : DispatchProgress) (remaining : List UInt64)
  | waiting (dispatch : Dispatch) (progress : DispatchProgress) (endpointId : UInt64) (remaining : List UInt64)
  | enqueued (dispatch : Dispatch) (progress : DispatchProgress) (endpointId : UInt64) (remaining : List UInt64)
      (result : QueueEnqueueResult)

structure SharedTopic where
  publisher : Publisher
  subscribers : ExtTreeMap UInt64 SubscriberEnd := ∅
  phase : PublisherPhase := .idle
  loans : List ChunkHandle := []

/-- What a call that asks the registry finds. The registry answers a query once it
lists a subscriber, or refuses it. -/
structure RefreshAnswers where
  now : Int
  refused : Option ErrorCode
  connects : UInt64 → Bool
  refreshedAt : Int

inductive TopicEvent where
  | subscribe (endpointId : UInt64) (descriptor : QueueDescriptor) (maxMessageSize : UInt64)
  | subscriber (endpointId : UInt64) (step : SubscriberStep)
  | publish (data : Option Bytes) (size : UInt64) (answers : RefreshAnswers) (timestamp : UInt64)
  | loan (size : UInt64)
  | publishLoanedSample (handle : ChunkHandle) (payloadSize : UInt64) (answers : RefreshAnswers) (timestamp : UInt64)
  | cancelLoanedSample (handle : ChunkHandle)
  | enqueue (notified : Bool) (attempt : LockAttempt)
  | resumeEnqueue (notified : Bool) (wait : WaitResult) (elapsedNs : UInt64)
  | settle
  | finish

namespace SharedTopic

/-- The subscribers that the registry lists for the topic. -/
def listed (topic : SharedTopic) : List RegistrySubscriber :=
  (topic.subscribers.toList.filter fun entry => entry.2.registered).map fun entry =>
    ⟨entry.1, entry.2.maxMessageSize, entry.2.descriptor⟩

/-- A connect and the opening of the queue can only succeed while the subscriber
is there. -/
def reachable (topic : SharedTopic) (endpointId : UInt64) : Bool :=
  (topic.subscribers[endpointId]?).any (·.alive)

def discoveryAnswers (topic : SharedTopic) (answers : RefreshAnswers) : DiscoveryAnswers :=
  { peerEvents := some []
    now := answers.now
    discovery := match answers.refused with
      | some code => .error code
      | none => .ok ⟨topic.publisher.topicId, .sharedMemory, topic.publisher.pool.descriptor, topic.listed⟩
    connects := fun endpointId => answers.connects endpointId && topic.reachable endpointId
    refreshedAt := answers.refreshedAt }

/-- Enter the dispatch that a prepared call goes on to. -/
def begin (topic : SharedTopic) (prepared : (PublishResult ⊕ Dispatch) × Publisher) : SharedTopic :=
  match prepared with
  | (.inl _, publisher) => { topic with publisher }
  | (.inr dispatch, publisher) =>
    { topic with publisher, phase := .serving dispatch dispatch.start (publisher.connections.map (·.endpointId)) }

def connection (topic : SharedTopic) (endpointId : UInt64) : Option DataConnection :=
  topic.publisher.connections.find? fun connection => connection.endpointId == endpointId

/-- The queue after an enqueue, and the Wake that it sent. -/
def updateQueue (topic : SharedTopic) (endpointId : UInt64) (subscriber : SubscriberEnd) (queue : SharedSubscriberQueue)
    (notificationSent : Bool) : ExtTreeMap UInt64 SubscriberEnd :=
  topic.subscribers.insert endpointId
    { subscriber with queue, unreadWakes := if notificationSent then subscriber.unreadWakes + 1 else subscriber.unreadWakes }

/-- Go on after a call of `enqueue` or the return of a wait in it. -/
def afterEnqueue (topic : SharedTopic) (dispatch : Dispatch) (progress : DispatchProgress) (endpointId : UInt64)
    (remaining : List UInt64) (subscriber : SubscriberEnd) (answer : Option QueueEnqueueResult × SharedSubscriberQueue) :
    SharedTopic :=
  match answer with
  | (none, queue) =>
    { topic with
      subscribers := topic.updateQueue endpointId subscriber queue false
      phase := .waiting dispatch progress endpointId remaining }
  | (some result, queue) =>
    { topic with
      subscribers := topic.updateQueue endpointId subscriber queue result.notificationSent
      phase := .enqueued dispatch progress endpointId remaining result }

def replaceConnection (publisher : Publisher) (pool : MemoryPool) (connection : DataConnection) : Publisher :=
  { publisher with
    pool
    connections := publisher.connections.map fun other =>
      if other.endpointId = connection.endpointId then connection else other }

def step (topic : SharedTopic) : TopicEvent → Option SharedTopic
  | .subscribe endpointId descriptor maxMessageSize =>
    if topic.subscribers.contains endpointId then none
    else
      match SharedSubscriberQueue.create descriptor with
      | .error _ => none
      | .ok queue =>
        some { topic with subscribers := topic.subscribers.insert endpointId { descriptor, maxMessageSize, queue } }
  | .subscriber endpointId step =>
    match topic.subscribers[endpointId]? with
    | none => none
    | some subscriber =>
      let connected := topic.publisher.connections.any fun connection => connection.endpointId == endpointId
      match subscriber.step connected topic.publisher.pool step with
      | none => none
      | some (subscriber, sent) =>
        some { topic with
          subscribers := topic.subscribers.insert endpointId subscriber
          publisher := topic.publisher.arrive endpointId sent }
  | .publish data size answers timestamp =>
    match topic.phase with
    | .idle =>
      if answers.refused = none ∧ topic.listed = [] then none
      else some (topic.begin (topic.publisher.preparePublish data size (topic.discoveryAnswers answers) timestamp))
    | _ => none
  | .loan size =>
    match topic.phase with
    | .idle =>
      let (allocation, _, publisher) := topic.publisher.allocateLoan size (some [])
      if allocation.error = .ok then some { topic with publisher, loans := allocation.handle :: topic.loans }
      else some { topic with publisher }
    | _ => none
  | .publishLoanedSample handle payloadSize answers timestamp =>
    match topic.phase with
    | .idle =>
      if handle ∉ topic.loans ∨ answers.refused = none ∧ topic.listed = [] then none
      else
        let topic := { topic with loans := topic.loans.erase handle }
        some (topic.begin (topic.publisher.prepareLoaned handle payloadSize (topic.discoveryAnswers answers) timestamp))
    | _ => none
  | .cancelLoanedSample handle =>
    match topic.phase with
    | .idle =>
      if handle ∉ topic.loans then none
      else
        some { topic with
          publisher := (topic.publisher.cancelLoanedSample handle).2, loans := topic.loans.erase handle }
    | _ => none
  | .enqueue notified attempt =>
    match topic.phase with
    | .serving dispatch progress (endpointId :: remaining) =>
      match topic.connection endpointId, topic.subscribers[endpointId]? with
      | some connection, some subscriber =>
        match offerReference topic.publisher.pool (outstandingLimit topic.publisher.config.memoryPool) connection
            dispatch.handle progress with
        | (pool, .inl progress) =>
          some { topic with publisher.pool := pool, phase := .serving dispatch progress remaining }
        | (pool, .inr _) =>
          if !notified ∧ subscriber.alive then none
          else
            some (afterEnqueue { topic with publisher.pool := pool } dispatch progress endpointId remaining subscriber
              (subscriber.queue.enqueue dispatch.handle (some notified) attempt))
      | _, _ => none
    | _ => none
  | .resumeEnqueue notified wait elapsedNs =>
    match topic.phase with
    | .waiting dispatch progress endpointId remaining =>
      match topic.subscribers[endpointId]? with
      | some subscriber =>
        if !notified ∧ subscriber.alive then none
        else
          some (topic.afterEnqueue dispatch progress endpointId remaining subscriber
            (subscriber.queue.resumeEnqueue dispatch.handle (some notified) wait true elapsedNs))
      | none => none
    | _ => none
  | .settle =>
    match topic.phase with
    | .enqueued dispatch progress endpointId remaining result =>
      match topic.connection endpointId with
      | some connection =>
        let (pool, connection, progress) :=
          settleEnqueue topic.publisher.pool connection dispatch.handle progress result
        some { topic with
          publisher := replaceConnection topic.publisher pool connection
          phase := .serving dispatch progress remaining }
      | none => none
    | _ => none
  | .finish =>
    match topic.phase with
    | .serving dispatch progress [] =>
      some { topic with publisher := (topic.publisher.finishDispatch dispatch progress).2, phase := .idle }
    | _ => none

end SharedTopic
end RobotMiddleware
