import ProcessAccounting.Accountant
import ProcessAccounting.Proofs.Proc.Access

/-!
# Runs of an accountant

The proc directory that an accountant watches changes in any way between refreshes, and
also while it is read.
-/

namespace ProcessAccounting

/-- What happens to an accountant over a proc directory. -/
inductive Event where
  /-- The proc directory is now another one. -/
  | change (directory : Proc.Directory)
  /-- The tree is polled at an instant. -/
  | refresh (now : Instant)

namespace Accountant

/-- The accountant after an event. -/
def react (a : Accountant) : Event → Accountant
  | .change directory =>
    match a.source with
    | .proc reader _ => { a with source := .proc reader directory }
    | .recording _ => a
  | .refresh now => (a.refresh now).1

/-- The accountant after a sequence of events. -/
def run (a : Accountant) (events : List Event) : Accountant := events.foldl react a

theorem run_cons (a : Accountant) (event : Event) (events : List Event) :
    a.run (event :: events) = (a.react event).run events := rfl

/-- The poll that a refresh feeds the monitor with. -/
def nextPoll (reader : Proc.Reader) (directory : Proc.Directory) (now : Instant) : Poll where
  units := reader.units
  outcome := (reader.scan directory).1
  takenAt := now

theorem react_change {a : Accountant} {reader : Proc.Reader} {old : Proc.Directory}
    (source : a.source = .proc reader old) (directory : Proc.Directory) :
    a.react (.change directory) = { a with source := .proc reader directory } := by
  rw [react, source]

theorem react_refresh {a : Accountant} {reader : Proc.Reader} {directory : Proc.Directory}
    (source : a.source = .proc reader directory) (now : Instant) :
    a.react (.refresh now) = {
      source := .proc reader (reader.scan directory).2
      monitor := a.monitor.refresh (nextPoll reader directory now) } := by
  rw [react, refresh, Source.poll, source]
  rfl

/-- An accountant from a configuration watches its directory and has published nothing. -/
theorem ofConfig_eq_ok {root : Pid} {system : Proc.SystemUnits} {config : Config}
    {reader : Proc.Reader} (accepted : Proc.Reader.ofConfig system config = .ok reader)
    (directory : Proc.Directory) (now : Instant) :
    ofConfig root system directory config now = .ok (new root (.proc reader directory) now) := by
  rw [ofConfig, accepted]
  rfl

end Accountant

end ProcessAccounting
