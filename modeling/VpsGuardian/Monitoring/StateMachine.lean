import VpsGuardian.Lib.Trace
import VpsGuardian.Monitoring.Records

/-!
The state machine of a monitor (`state_machine.py`).

A monitor in `pending_recovery` may have come from `failing`, with an incident
open, or from `pending_failure`, with none. The machine does not remember which.
-/

namespace VpsGuardian.Monitoring

open Lib
open Controller (Time seconds)

inductive MonitorState
  | unknown
  | healthy
  | pendingFailure
  | failing
  | pendingRecovery
  deriving DecidableEq, Repr

structure Transition where
  previous : MonitorState
  current : MonitorState
  changed : Bool
  incidentOpened : Bool
  incidentRecovered : Bool
  suppressed : Bool
  deriving DecidableEq, Repr

structure MonitorStateMachine where
  failureThreshold : Int
  recoveryThreshold : Int
  cooldownSeconds : Int
  state : MonitorState
  consecutiveSuccesses : Nat
  consecutiveFailures : Nat
  lastTransitionAt : Option Time
  deriving DecidableEq, Repr

/-- What a machine is told: whether a probe succeeded, and when. -/
structure Observation where
  success : Bool
  now : Time
  deriving DecidableEq, Repr

namespace MonitorStateMachine

def new (failureThreshold recoveryThreshold cooldownSeconds : Int) : MonitorStateMachine :=
  ⟨failureThreshold, recoveryThreshold, cooldownSeconds, .unknown, 0, 0, none⟩

/-- The machine after a success, before the cooldown, and whether an incident recovered. -/
def succeed (machine : MonitorStateMachine) : MonitorStateMachine × Bool :=
  let counted := { machine with
    consecutiveSuccesses := machine.consecutiveSuccesses + 1
    consecutiveFailures := 0 }
  if machine.state = .unknown ∨ machine.state = .healthy then
    ({ counted with state := .healthy }, false)
  else if machine.recoveryThreshold ≤ counted.consecutiveSuccesses then
    ({ counted with state := .healthy },
      machine.state = .failing ∨ machine.state = .pendingRecovery)
  else ({ counted with state := .pendingRecovery }, false)

/-- The machine after a failure, before the cooldown, and whether an incident opened. -/
def fail (machine : MonitorStateMachine) : MonitorStateMachine × Bool :=
  let counted := { machine with
    consecutiveFailures := machine.consecutiveFailures + 1
    consecutiveSuccesses := 0 }
  if machine.state = .failing then (counted, false)
  else if machine.failureThreshold ≤ counted.consecutiveFailures then
    ({ counted with state := .failing }, true)
  else ({ counted with state := .pendingFailure }, false)

/-- Whether the cooldown after the last transition is not over. -/
def cooling (machine : MonitorStateMachine) (now : Time) : Bool :=
  machine.lastTransitionAt.any fun last => now < last + seconds machine.cooldownSeconds

/-- The cooldown holds back the opening of an incident; every other change of state is stamped. -/
def settle (machine judged : MonitorStateMachine) (incidentOpened incidentRecovered : Bool)
    (now : Time) : MonitorStateMachine × Transition :=
  if machine.state ≠ judged.state then
    if machine.cooling now ∧ incidentOpened then
      ({ judged with state := machine.state },
        ⟨machine.state, machine.state, false, false, incidentRecovered, true⟩)
    else
      ({ judged with lastTransitionAt := some now },
        ⟨machine.state, judged.state, true, incidentOpened, incidentRecovered, false⟩)
  else (judged, ⟨machine.state, judged.state, false, incidentOpened, incidentRecovered, false⟩)

def observe (machine : MonitorStateMachine) (observation : Observation) :
    MonitorStateMachine × Transition :=
  if observation.success then
    machine.settle machine.succeed.1 false machine.succeed.2 observation.now
  else machine.settle machine.fail.1 machine.fail.2 false observation.now

/-- An observation as a step with its transition as output. -/
def step (machine : MonitorStateMachine) (observation : Observation) :
    MonitorStateMachine × List Transition :=
  ((machine.observe observation).1, [(machine.observe observation).2])

end MonitorStateMachine

end VpsGuardian.Monitoring
