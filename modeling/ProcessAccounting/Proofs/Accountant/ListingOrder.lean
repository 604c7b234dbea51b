import ProcessAccounting.Proofs.Accountant.Run
import ProcessAccounting.Proofs.Proc.ListingOrder
import ProcessAccounting.Proofs.Proc.Scripted
import ProcessAccounting.Proofs.Subtree
import Mathlib.Data.List.Forall2

/-!
# Accountants do not see the order of a listing

Two accountants that have published the same and watch directories that differ in nothing but
the order of their entries publish the same for ever.
-/

namespace ProcessAccounting

/-- Polls that saw the same processes in some order have the same effect. -/
theorem Monitor.refresh_of_sameRecords (m : Monitor) (units : Units) (now : Instant)
    {outcome outcome' : Except Report (List ProcessRecord)}
    (same : Proc.SameRecords outcome outcome')
    (distinct : ∀ records, outcome = .ok records → (records.map (·.pid)).Nodup) :
    m.refresh { units, outcome, takenAt := now } =
        m.refresh { units, outcome := outcome', takenAt := now } ∧
      warnings { units, outcome, takenAt := now } =
        warnings { units, outcome := outcome', takenAt := now } := by
  cases same with
  | failed report => exact ⟨rfl, rfl⟩
  | @read records records' perm =>
    have tree := subtree_eq_of_perm perm (distinct records rfl) m.baseline.root
    have next : m.nextSnapshot { units, outcome := .ok records, takenAt := now } =
        m.nextSnapshot { units, outcome := .ok records', takenAt := now } := by
      simp only [nextSnapshot, Snapshot.refreshed, tree]
    refine ⟨?_, rfl⟩
    rw [refresh, refresh, next]
    rfl

/-- Events that differ in nothing but the order of the entries of a directory. -/
inductive Event.Reordered : Event → Event → Prop
  | change {d e : Proc.Directory} (reordered : d.Reordered e) (distinct : d.Distinct) :
    Reordered (.change d) (.change e)
  | refresh (now : Instant) : Reordered (.refresh now) (.refresh now)

namespace Accountant

variable {reader : Proc.Reader} {d e : Proc.Directory} {a b : Accountant}

/-- A monitor that is fed from either of two reordered directories ends up the same. -/
theorem refresh_nextPoll_of_reordered (reader : Proc.Reader) (reordered : d.Reordered e)
    (distinct : d.Distinct) (m : Monitor) (now : Instant) :
    m.refresh (nextPoll reader d now) = m.refresh (nextPoll reader e now) ∧
      Monitor.warnings (nextPoll reader d now) = Monitor.warnings (nextPoll reader e now) := by
  have same := (reader.sameRecords_scan reordered distinct).1
  have nodup (records : List ProcessRecord) (scanned : (reader.scan d).1 = .ok records) :
      (records.map (·.pid)).Nodup :=
    (Proc.Reader.pids_scan scanned).nodup distinct.pids
  exact m.refresh_of_sameRecords reader.units now same nodup

/-- Both accountants have published the same, and they watch directories that differ in
nothing but the order of their entries. -/
structure Alike (reader : Proc.Reader) (a b : Accountant) : Prop where
  source : ∃ d e : Proc.Directory, a.source = .proc reader d ∧ b.source = .proc reader e ∧
    d.Reordered e ∧ d.Distinct
  monitor : a.monitor = b.monitor

theorem alike_new (root : Pid) (reordered : d.Reordered e) (distinct : d.Distinct)
    (now : Instant) :
    Alike reader (new root (.proc reader d) now) (new root (.proc reader e) now) where
  source := ⟨d, e, rfl, rfl, reordered, distinct⟩
  monitor := rfl

theorem Alike.react (alike : Alike reader a b) {event event' : Event}
    (reordered : event.Reordered event') : Alike reader (a.react event) (b.react event') := by
  obtain ⟨d, e, source, source', shuffled, distinct⟩ := alike.source
  cases reordered with
  | change reordered distinct =>
    rw [react_change source, react_change source']
    exact ⟨⟨_, _, rfl, rfl, reordered, distinct⟩, alike.monitor⟩
  | refresh now =>
    have after := (reader.sameRecords_scan shuffled distinct).2
    have later : d.Later (reader.scan d).2 := Proc.Reader.later_scan d
    have published := (refresh_nextPoll_of_reordered reader shuffled distinct a.monitor now).1
    rw [react_refresh source, react_refresh source', ← alike.monitor]
    exact ⟨⟨_, _, rfl, rfl, after, later.distinct distinct⟩, published⟩

/-- Accountants stay alike whatever happens to both of them. -/
theorem Alike.run (alike : Alike reader a b) {events events' : List Event}
    (reordered : List.Forall₂ Event.Reordered events events') :
    Alike reader (a.run events) (b.run events') := by
  induction reordered generalizing a b with
  | nil => exact alike
  | cons first rest ih => exact ih (alike.react first)

/-- Whatever has been published before, a refresh over either of two directories that differ
in the order of their entries reads the same records or fails for the same reason.  All that
it publishes and all that it keeps for later is the same, and so are the warnings. -/
theorem refresh_of_reordered (reader : Proc.Reader) (monitor : Monitor) (now : Instant)
    (reordered : d.Reordered e) (distinct : d.Distinct) :
    let watching (directory : Proc.Directory) : Accountant :=
      { source := .proc reader directory, monitor }
    Proc.SameRecords (watching d).source.read.1 (watching e).source.read.1 ∧
      ((watching d).refresh now).1.monitor = ((watching e).refresh now).1.monitor ∧
      ((watching d).refresh now).2 = ((watching e).refresh now).2 :=
  ⟨(reader.sameRecords_scan reordered distinct).1,
    refresh_nextPoll_of_reordered reader reordered distinct monitor now⟩

/-- A process whose stat file is read twice is found wherever it stands in the listing. -/
theorem refresh_of_two_orders :
    let reader : Proc.Reader :=
      { path := "/proc", pageSize := some 4096, tickRate := some 100, retries := 2 }
    let parent : Proc.Entry := { name := [0x37], stat := [.ok (Proc.childStat 7 1)] }
    let child : Proc.Entry := { name := [0x38], stat := [.ok [], .ok (Proc.childStat 8 7)] }
    let watching (entries : List Proc.Entry) : Accountant :=
      new 7 (.proc reader { entries }) .zero
    ((watching [parent, child]).refresh .zero).1.monitor.current.pids = [7, 8] ∧
      ((watching [parent, child]).refresh .zero).1.monitor =
        ((watching [child, parent]).refresh .zero).1.monitor := by
  intro reader parent child watching
  have reordered : Proc.Directory.Reordered
      { entries := [parent, child] } { entries := [child, parent] } :=
    ⟨List.Perm.swap child parent [], rfl, rfl, .refl _⟩
  have distinct : Proc.Directory.Distinct { entries := [parent, child] } :=
    ⟨by decide, by decide +kernel⟩
  have same := refresh_of_reordered reader (.new 7 reader.units .zero) .zero reordered distinct
  exact ⟨by decide +kernel, same.2.1⟩

end Accountant

end ProcessAccounting
