import Std.Data.TreeMap

/-!
# Guest ids

The guest mints an id for every entity it accepts. One value is reserved: it is the answer to a
request the guest refuses.
-/

namespace SceneBridge

structure GuestId where
  raw : UInt64
deriving DecidableEq

namespace GuestId

/-- The answer to a refused request. -/
def invalid : GuestId := ⟨0xffffffffffffffff⟩

instance : Inhabited GuestId := ⟨invalid⟩

def isValid (id : GuestId) : Bool := id ≠ invalid

instance : Ord GuestId := ⟨compareOn raw⟩

instance : Std.TransOrd GuestId := inferInstanceAs (Std.TransCmp (compareOn raw))

instance : Std.LawfulEqOrd GuestId where
  eq_of_compare {a b} h := by
    have h := Std.LawfulEqOrd.eq_of_compare (a := a.raw) (b := b.raw) h
    cases a
    cases b
    simp_all

instance : ToString GuestId := ⟨fun id => s!"guest#{id.raw}"⟩

def describe (id : GuestId) : String :=
  if id.isValid then s!"GuestEntityId({id.raw})" else "GuestEntityId(invalid)"

end GuestId

/-- A template as the guest names it: a family, and a position in it. -/
structure TemplateRef where
  familyId : Int32
  index : Int32
deriving DecidableEq, Inhabited

end SceneBridge
