import ProcessAccounting.ProcessRecord

/-!
# Ages

The age of a member counts the polls in a row over which it has been seen.  A
process that was there before, under the same pid and with the same start time, is
one poll older than it was; every other one is new and has age 0, whatever age its
record arrives with.
-/

namespace ProcessAccounting

/-- The age of a process that is now a member under the key `key`. -/
def carriedAge (previous : Members) (key : Pid) (p : ProcessRecord) : UInt32 :=
  match previous[key]? with
  | some old => if old.IsSame p then Saturating.next old.age else 0
  | none => 0

/-- The current members with the ages that follow from the previous ones. -/
def carryAges (previous current : Members) : Members :=
  current.map fun key p => { p with age := carriedAge previous key p }

@[simp] theorem getElem?_carryAges (previous current : Members) (key : Pid) :
    (carryAges previous current)[key]? =
      current[key]?.map fun p => { p with age := carriedAge previous key p } :=
  Std.ExtTreeMap.getElem?_map

end ProcessAccounting
