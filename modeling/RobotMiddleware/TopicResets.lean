import RobotMiddleware.SharedTopic

/-! Resets of the queues of a shared topic, which may come at any moment of a run.
Whoever takes the mutex of a queue after its owner died finds the queue empty; a
subscriber that is told that a publisher died, or that loses its connection,
discards the handles of a pool; and the registry clears the queue of a subscriber
that is gone. -/

namespace RobotMiddleware

inductive QueueReset where
  | ownerDeath (head tail size maxSize : Nat) (counters : QueueCounters) (closes : Bool) (stores : List (Nat × ChunkHandle))
  | resetPublisherState (deadPoolId discoveredPoolId : UInt64) (attempt : LockAttempt)
  | recoverAndClose (region : RegionOutcome) (attempt : LockAttempt)

namespace SubscriberEnd

/-- Whether `resetPublisherState` goes on to forget the publisher when
`discoveredPoolId` is the pool that the subscriber remembers. -/
def forgets (deadPoolId discoveredPoolId : UInt64) : Bool :=
  !(deadPoolId != 0 && discoveredPoolId != 0 && discoveredPoolId != deadPoolId)

def reset (subscriber : SubscriberEnd) : QueueReset → Option SubscriberEnd
  | .ownerDeath head tail size maxSize counters closes stores =>
    -- only the destructor and the registry's cleanup close a queue
    if closes ∧ subscriber.alive then none
    else some { subscriber with queue := subscriber.queue.ownerDeath head tail size maxSize counters closes stores }
  | .resetPublisherState deadPoolId discoveredPoolId attempt =>
    if subscriber.alive ∧ subscriber.inHand = [] then
      -- it takes nothing more of this publisher once it has closed its connection; one that waits is accepted later
      some { subscriber with
        queue := subscriber.queue.discardPool deadPoolId attempt
        alive := !(subscriber.accepted && forgets deadPoolId discoveredPoolId) }
    else none
  | .recoverAndClose region attempt =>
    if subscriber.alive then none
    else some { subscriber with queue := (subscriber.queue.recoverAndClose subscriber.descriptor region attempt).2 }

end SubscriberEnd

/-- An event of the topic, or a reset of the queue of one endpoint. -/
inductive TopicMove where
  | event (event : TopicEvent)
  | reset (endpointId : UInt64) (reset : QueueReset)

def SharedTopic.move (topic : SharedTopic) : TopicMove → Option SharedTopic
  | .event event => topic.step event
  | .reset endpointId reset =>
    match topic.subscribers[endpointId]? with
    | none => none
    | some subscriber => (subscriber.reset reset).map fun after =>
      { topic with subscribers := topic.subscribers.insert endpointId after }

end RobotMiddleware
