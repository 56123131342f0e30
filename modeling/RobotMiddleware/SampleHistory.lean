import Mathlib.Logic.Function.Basic
import RobotMiddleware.TopicResets

/-! A topic together with the history of its samples: which call published the
handles that are queued at an endpoint, which of them a take has in hand, which
samples the endpoint has taken so far, and what the calls have returned. The
history is only recorded; no step depends on it. -/

namespace RobotMiddleware

/-- A sample that a subscriber took: the call that published it, and the sequence
number that the subscriber was given. -/
structure Take where
  dispatch : Dispatch
  sequence : UInt64
  deriving DecidableEq, Repr

structure SampleHistory where
  queued : UInt64 → List Dispatch := fun _ => []
  inHand : UInt64 → List Dispatch := fun _ => []
  taken : UInt64 → List Take := fun _ => []
  returned : List (Dispatch × PublishResult) := []

namespace SampleHistory
open Function

/-- An enqueue has answered: an accepted handle comes last, and a full queue may
have dropped its first. -/
def enqueued (history : SampleHistory) (endpointId : UInt64) (dispatch : Dispatch) (result : QueueEnqueueResult) :
    SampleHistory :=
  if result.status = .accepted then
    { history with
      queued := update history.queued endpointId
        ((history.queued endpointId).drop result.droppedOldest.toList.length ++ [dispatch]) }
  else history

def moved (history : SampleHistory) (pool : MemoryPool) (endpointId : UInt64) (subscriber : SubscriberEnd) :
    SubscriberStep → SampleHistory
  | .dequeue attempt =>
    if (subscriber.queue.tryDequeue attempt).1.isSome then
      { history with
        queued := update history.queued endpointId (history.queued endpointId).tail
        inHand := update history.inHand endpointId ((history.queued endpointId).take 1) }
    else history
  | .read =>
    match subscriber.inHand with
    | [] => history
    | handle :: _ =>
      let view := MemoryPoolView.read pool handle subscriber.maxMessageSize
      let viewed := (history.inHand endpointId).map fun dispatch => Take.mk dispatch view.sequence
      { history with
        inHand := update history.inHand endpointId []
        taken := if view.error = .ok then update history.taken endpointId (history.taken endpointId ++ viewed)
          else history.taken }
  | .closeAndDrain attempt =>
    match (subscriber.queue.closeAndDrain attempt).1 with
    | .ok _ => { history with queued := update history.queued endpointId [] }
    | .error _ => history
  | _ => history

def reset (history : SampleHistory) (endpointId : UInt64) (subscriber : SubscriberEnd) : QueueReset → SampleHistory
  | .ownerDeath .. => { history with queued := update history.queued endpointId [] }
  | .resetPublisherState deadPoolId _ attempt =>
    if (subscriber.queue.lock attempt).1 then
      { history with
        queued := update history.queued endpointId
          ((history.queued endpointId).filter fun dispatch => deadPoolId != 0 && dispatch.handle.poolId != deadPoolId) }
    else history
  | .recoverAndClose region attempt =>
    if region = .opened ∧ (subscriber.queue.recoverAndClose subscriber.descriptor region attempt).1 = .ok then
      { history with queued := update history.queued endpointId [] }
    else history

/-- The history after a move that led from one topic to the next. -/
def record (history : SampleHistory) (topic next : SharedTopic) : TopicMove → SampleHistory
  | .event (.enqueue ..) | .event (.resumeEnqueue ..) =>
    match next.phase with
    | .enqueued dispatch _ endpointId _ result => history.enqueued endpointId dispatch result
    | _ => history
  | .event (.subscriber endpointId step) =>
    match topic.subscribers[endpointId]? with
    | some subscriber => history.moved topic.publisher.pool endpointId subscriber step
    | none => history
  | .event .finish =>
    match topic.phase with
    | .serving dispatch progress _ =>
      { history with
        returned := history.returned ++ [(dispatch, (topic.publisher.finishDispatch dispatch progress).1)] }
    | _ => history
  | .reset endpointId reset =>
    match topic.subscribers[endpointId]? with
    | some subscriber => history.reset endpointId subscriber reset
    | none => history
  | .event _ => history

end SampleHistory

structure RecordedTopic where
  topic : SharedTopic
  history : SampleHistory := {}

def RecordedTopic.step (recorded : RecordedTopic) (move : TopicMove) : Option RecordedTopic :=
  (recorded.topic.move move).map fun next => ⟨next, recorded.history.record recorded.topic next move⟩

end RobotMiddleware
