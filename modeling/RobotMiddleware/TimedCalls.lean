import RobotMiddleware.PublisherSuccession

/-! The take calls with a clock. The clock and the deadline of a call count nanoseconds
in 64 bits, the timeouts of a call and of a poll milliseconds. -/

namespace RobotMiddleware

def kIntMax : Int := 2147483647
def kInt64Max : Int := 9223372036854775807
def kNanosecondsPerMillisecond : Int := 1000000

/-- A result of the arithmetic of durations; one that overflows is undefined. -/
def int64 (value : Int) : Option Int := if -kInt64Max - 1 ≤ value ∧ value ≤ kInt64Max then some value else none

/-- The deadline of a call that computes it now. -/
def deadlineAfter (now timeout : Int) : Option Int :=
  (int64 (timeout * kNanosecondsPerMillisecond)).bind fun duration => int64 (now + duration)

def pollTimeout (now deadline requestedTimeout : Int) : Option Int :=
  if requestedTimeout ≤ 0 then some 0
  else if now ≥ deadline then some 0
  else
    (int64 (deadline - now)).bind fun remaining =>
      (int64 (remaining + kNanosecondsPerMillisecond)).bind fun more =>
        (int64 (more - 1)).map fun roundedUp => min (roundedUp / kNanosecondsPerMillisecond) kIntMax

/-- The phases inside of the loop of a take call, after its deadline is computed. -/
def inLoop : TakePhase → Bool
  | .peeking | .dequeuing | .listening | .accepting | .polling | .receiving => true
  | _ => false

/-- A subscriber with the time, and its last call with the time when it was made. -/
structure TimedCall where
  state : Succession
  now : Int := 0
  called : Int := 0
  timeout : Int := 0
  deadline : Option Int := none

/-- A step with the clock when it reads it and when it is over, and the argument if it
is a call. -/
structure TimedEvent where
  event : SuccessionEvent
  read : Int
  time : Int
  timeout : Int := 0

namespace TimedCall

def pollArgument (call : TimedCall) (read : Int) : Option Int := call.deadline.bind (pollTimeout read · call.timeout)

/-- A poll returns 0 only after the time that it is given. -/
def punctual (call : TimedCall) (event : TimedEvent) (outcome : PollOutcome) : Bool :=
  outcome != .timeout ||
    (call.pollArgument event.read).all fun wait => event.read + wait * kNanosecondsPerMillisecond ≤ event.time

def step (call : TimedCall) (event : TimedEvent) : Option TimedCall :=
  if event.read < call.now ∨ event.time < event.read then none
  else
    (call.state.step event.event).bind fun state =>
      let next := { call with state, now := event.time }
      match event.event with
      | .subscriber (.call _) => some { next with called := event.read, timeout := max event.timeout 0, deadline := none }
      | .subscriber (.poll outcome) => if call.punctual event outcome then some next else none
      | _ =>
        if inLoop state.phase && !inLoop call.state.phase then
          some { next with deadline := deadlineAfter event.read call.timeout }
        else some next

end TimedCall
end RobotMiddleware
