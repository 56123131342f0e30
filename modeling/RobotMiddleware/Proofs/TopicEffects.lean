import RobotMiddleware.Proofs.PublisherCalls
import RobotMiddleware.SharedTopic

/-! What one step of a shared topic can be. Every invariant of a topic is proved by
cases on this type. -/

namespace RobotMiddleware.Proofs.TopicEffects
open Std PublisherAccounting PublisherCalls

def IsCall : TopicEvent → Prop
  | .publish .. | .loan .. | .publishLoanedSample .. | .cancelLoanedSample .. => True
  | _ => False

/-- Calls that may ask the registry. -/
def Asks : TopicEvent → Prop
  | .publish .. | .publishLoanedSample .. => True
  | _ => False

def connected (topic : SharedTopic) (endpointId : UInt64) : Bool :=
  topic.publisher.connections.any fun connection => connection.endpointId == endpointId

inductive TopicEffect (topic : SharedTopic) : TopicEvent → SharedTopic → Prop where
  | subscribed {endpointId : UInt64} {descriptor : QueueDescriptor} {maxMessageSize : UInt64} {queue : SharedSubscriberQueue}
      (new : topic.subscribers[endpointId]? = none) (created : SharedSubscriberQueue.create descriptor = .ok queue) :
      TopicEffect topic (.subscribe endpointId descriptor maxMessageSize)
        { topic with subscribers := topic.subscribers.insert endpointId { descriptor, maxMessageSize, queue } }
  | moved {endpointId : UInt64} {step : SubscriberStep} {subscriber after : SubscriberEnd} {sent : List SocketEvent}
      (found : topic.subscribers[endpointId]? = some subscriber)
      (taken : subscriber.step (connected topic endpointId) topic.publisher.pool step = some (after, sent)) :
      TopicEffect topic (.subscriber endpointId step)
        { topic with
          subscribers := topic.subscribers.insert endpointId after
          publisher := topic.publisher.arrive endpointId sent }
  | called {event : TopicEvent} {answers : RefreshAnswers} {prepared : (PublishResult ⊕ Dispatch) × Publisher}
      {loans : List ChunkHandle} (call : IsCall event) (asking : answers.refused = none → Asks event)
      (idle : topic.phase = .idle) (effect : Prepares (topic.discoveryAnswers answers) topic.publisher loans prepared) :
      TopicEffect topic event (SharedTopic.begin { topic with loans } prepared)
  | skipped {notified : Bool} {attempt : LockAttempt} {dispatch : Dispatch} {progress noted : DispatchProgress}
      {endpointId : UInt64} {remaining : List UInt64} {connection : DataConnection} {pool : MemoryPool}
      (phase : topic.phase = .serving dispatch progress (endpointId :: remaining))
      (chosen : topic.connection endpointId = some connection)
      (skips : offerReference topic.publisher.pool (outstandingLimit topic.publisher.config.memoryPool) connection
        dispatch.handle progress = (pool, .inl noted)) :
      TopicEffect topic (.enqueue notified attempt)
        { topic with publisher.pool := pool, phase := .serving dispatch noted remaining }
  | offered {notified : Bool} {attempt : LockAttempt} {dispatch : Dispatch} {progress : DispatchProgress}
      {endpointId : UInt64} {remaining : List UInt64} {connection : DataConnection} {pool : MemoryPool} {wake : Bytes}
      {subscriber : SubscriberEnd} (phase : topic.phase = .serving dispatch progress (endpointId :: remaining))
      (chosen : topic.connection endpointId = some connection) (found : topic.subscribers[endpointId]? = some subscriber)
      (offers : offerReference topic.publisher.pool (outstandingLimit topic.publisher.config.memoryPool) connection
        dispatch.handle progress = (pool, .inr wake))
      (sent : subscriber.alive = true → notified = true) :
      TopicEffect topic (.enqueue notified attempt)
        (SharedTopic.afterEnqueue { topic with publisher.pool := pool } dispatch progress endpointId remaining subscriber
          (subscriber.queue.enqueue dispatch.handle (some notified) attempt))
  | resumed {notified : Bool} {wait : WaitResult} {elapsedNs : UInt64} {dispatch : Dispatch} {progress : DispatchProgress}
      {endpointId : UInt64} {remaining : List UInt64} {subscriber : SubscriberEnd}
      (phase : topic.phase = .waiting dispatch progress endpointId remaining)
      (found : topic.subscribers[endpointId]? = some subscriber) (sent : subscriber.alive = true → notified = true) :
      TopicEffect topic (.resumeEnqueue notified wait elapsedNs)
        (topic.afterEnqueue dispatch progress endpointId remaining subscriber
          (subscriber.queue.resumeEnqueue dispatch.handle (some notified) wait true elapsedNs))
  | settled {dispatch : Dispatch} {progress : DispatchProgress} {endpointId : UInt64} {remaining : List UInt64}
      {result : QueueEnqueueResult} {connection : DataConnection}
      (phase : topic.phase = .enqueued dispatch progress endpointId remaining result)
      (chosen : topic.connection endpointId = some connection) :
      TopicEffect topic .settle
        { topic with
          publisher := SharedTopic.replaceConnection topic.publisher
            (settleEnqueue topic.publisher.pool connection dispatch.handle progress result).1
            (settleEnqueue topic.publisher.pool connection dispatch.handle progress result).2.1
          phase := .serving dispatch
            (settleEnqueue topic.publisher.pool connection dispatch.handle progress result).2.2 remaining }
  | finished {dispatch : Dispatch} {progress : DispatchProgress} (phase : topic.phase = .serving dispatch progress []) :
      TopicEffect topic .finish
        { topic with publisher := (topic.publisher.finishDispatch dispatch progress).2, phase := .idle }

variable {topic next : SharedTopic}

/-- Answers of a call that asks nobody. -/
def unasked : RefreshAnswers := ⟨0, some .timeout, fun _ => false, 0⟩

private theorem TopicEffect.alone {event : TopicEvent} {publisher : Publisher} {loans : List ChunkHandle} (call : IsCall event)
    (idle : topic.phase = .idle) (effect : Prepares (topic.discoveryAnswers unasked) topic.publisher loans (.inl {}, publisher)) :
    TopicEffect topic event { topic with publisher, loans } :=
  .called call (by simp [unasked]) idle effect

section Calls
variable (settled : topic.phase = .idle → Settled topic.publisher [] topic.loans)
include settled

private theorem publish_effect {data : Option Bytes} {size : UInt64} {answers : RefreshAnswers} {timestamp : UInt64}
    (taken : topic.step (.publish data size answers timestamp) = some next) :
    TopicEffect topic (.publish data size answers timestamp) next := by
  simp only [SharedTopic.step] at taken
  split at taken
  next idle =>
    split at taken
    · cases taken
    · cases taken
      exact .called trivial (fun _ => trivial) idle (preparePublish_prepares (settled idle) data size _ timestamp)
  · cases taken

private theorem publishLoaned_effect {handle : ChunkHandle} {payloadSize : UInt64} {answers : RefreshAnswers}
    {timestamp : UInt64} (taken : topic.step (.publishLoanedSample handle payloadSize answers timestamp) = some next) :
    TopicEffect topic (.publishLoanedSample handle payloadSize answers timestamp) next := by
  simp only [SharedTopic.step] at taken
  split at taken
  next idle =>
    split at taken
    · cases taken
    · cases taken
      exact .called trivial (fun _ => trivial) idle (prepareLoaned_prepares (settled idle) handle payloadSize _ timestamp)
  · cases taken

private theorem loan_effect {size : UInt64} (taken : topic.step (.loan size) = some next) :
    TopicEffect topic (.loan size) next := by
  simp only [SharedTopic.step] at taken
  split at taken
  next idle =>
    have prepares := allocateLoan_prepares (topic.discoveryAnswers unasked) (some []) rfl (settled idle) size
    split at taken
    next granted =>
      cases taken
      rw [if_pos granted] at prepares
      exact .alone trivial idle prepares
    next refused =>
      cases taken
      rw [if_neg refused] at prepares
      exact .alone trivial idle prepares
  · cases taken

private theorem cancelLoaned_effect {handle : ChunkHandle} (taken : topic.step (.cancelLoanedSample handle) = some next) :
    TopicEffect topic (.cancelLoanedSample handle) next := by
  simp only [SharedTopic.step] at taken
  split at taken
  next idle =>
    split at taken
    · cases taken
    · cases taken
      exact .alone trivial idle (cancelLoaned_prepares _ (settled idle) handle)
  · cases taken

end Calls

private theorem enqueue_effect {notified : Bool} {attempt : LockAttempt}
    (taken : topic.step (.enqueue notified attempt) = some next) : TopicEffect topic (.enqueue notified attempt) next := by
  simp only [SharedTopic.step] at taken
  split at taken
  next dispatch progress endpointId remaining phase =>
    split at taken
    next connection subscriber chosen found =>
      split at taken
      next pool noted skips =>
        cases taken
        exact .skipped phase chosen skips
      next pool wake offers =>
        split at taken
        · cases taken
        next sent =>
          cases taken
          exact .offered phase chosen found offers fun alive => by simpa [alive] using sent
    · cases taken
  · cases taken

theorem step_effect (settled : topic.phase = .idle → Settled topic.publisher [] topic.loans) {event : TopicEvent}
    (taken : topic.step event = some next) : TopicEffect topic event next := by
  cases event with
  | subscribe =>
    simp only [SharedTopic.step] at taken
    split at taken
    · cases taken
    next new =>
      split at taken
      · cases taken
      next queue created =>
        cases taken
        exact .subscribed (by simpa using new) created
  | subscriber =>
    simp only [SharedTopic.step] at taken
    split at taken
    · cases taken
    next subscriber found =>
      split at taken
      · cases taken
      next after sent moved =>
        cases taken
        exact .moved found moved
  | publish => exact publish_effect settled taken
  | loan size => exact loan_effect settled taken
  | publishLoanedSample => exact publishLoaned_effect settled taken
  | cancelLoanedSample => exact cancelLoaned_effect settled taken
  | enqueue => exact enqueue_effect taken
  | resumeEnqueue =>
    simp only [SharedTopic.step] at taken
    split at taken
    next dispatch progress endpointId remaining phase =>
      split at taken
      next subscriber found =>
        split at taken
        · cases taken
        next sent =>
          cases taken
          exact .resumed phase found fun alive => by simpa [alive] using sent
      · cases taken
    · cases taken
  | settle =>
    simp only [SharedTopic.step] at taken
    split at taken
    next dispatch progress endpointId remaining result phase =>
      split at taken
      next connection chosen =>
        cases taken
        exact .settled phase chosen
      · cases taken
    · cases taken
  | finish =>
    simp only [SharedTopic.step] at taken
    split at taken
    next dispatch progress phase =>
      cases taken
      exact .finished phase
    · cases taken

end RobotMiddleware.Proofs.TopicEffects
