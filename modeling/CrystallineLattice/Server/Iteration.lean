import CrystallineLattice.Native.Grace
import CrystallineLattice.Server.Loop

/-!
# Iterations

An iteration of the loop, as a run of its stages.  `poll` decides which event
sources are served: a source that is not ready has nothing in the iteration, and
in particular `transport_process` is only called if the transport's descriptor is
ready.
-/

namespace CrystallineLattice.Server

open CrystallineLattice.Foundation
open CrystallineLattice.Native
open CrystallineLattice.Wayland

structure ModeRequest where
  w : Int
  h : Int
  refresh : Int
  answers : ApplyAnswers

/-- What happens in one iteration; `now` is the clock at its start. -/
structure Iteration where
  active : Bool
  now : Int
  committed : Bool
  answers : CommitAnswers
  input : List RawInput
  transport : Option (Int × List EpollEvent)
  wayland : List ClientEvent
  control : List ModeRequest
  hotplug : Bool

namespace Iteration

def before (it : Iteration) : List ServerEvent :=
  [.seat it.active, .idle it.now it.committed, .frame it.answers] ++
    it.input.map ServerEvent.input ++ [.pass]

def log (it : Iteration) (t : Transport) : List Native.Event :=
  match it.transport with
  | none => []
  | some (now, evs) => processLog t now evs

def after (it : Iteration) : List ServerEvent :=
  [.pass] ++ it.wayland.map ServerEvent.wayland ++ [.pass] ++
    it.control.map (fun r => .control r.w r.h r.refresh r.answers) ++
    [.pass, .hotplug it.hotplug, .tail]

def found (it : Iteration) (X : ServerRun) : Transport :=
  (ServerRun.system.exec X it.before).world.t

def events (it : Iteration) (X : ServerRun) : List ServerEvent :=
  it.before ++ (it.log (it.found X)).map ServerEvent.transport ++ it.after

def clocks (it : Iteration) (X : ServerRun) : List Int :=
  it.now :: (it.log (it.found X)).filterMap Event.clock

end Iteration

theorem exec_transport (X : ServerRun) (es : List Native.Event) :
    (ServerRun.system.exec X (es.map ServerEvent.transport)).world =
      World.system.exec X.world es := by
  induction es generalizing X with
  | nil => rfl
  | cons e es ih => exact ih (X.next (.transport e))

theorem exec_log (X : ServerRun) (it : Iteration) :
    (ServerRun.system.exec X ((it.log X.world.t).map ServerEvent.transport)).world =
      match it.transport with
      | none => X.world
      | some (now, evs) => { X.world with t := (transportProcess X.world.t now evs).1 } := by
  rw [exec_transport]
  unfold Iteration.log
  cases it.transport with
  | none => rfl
  | some call => exact exec_processLog X.world call.1 call.2

end CrystallineLattice.Server
