import PeerDirectory.Record
import PeerDirectory.Distinct

namespace PeerDirectory

open Std

namespace Router

def order : Router → Router → Ordering :=
  compareLex (compareOn identity) <| compareLex (compareOn addresses) <|
    compareLex (compareOn floodfill) (compareOn published)

instance : Ord Router := ⟨order⟩

instance : TransOrd Router := inferInstanceAs (TransCmp (compareLex _ _))

instance : LawfulEqOrd Router where
  eq_of_compare {a b} same := by
    cases a
    cases b
    change order _ _ = .eq at same
    simp only [order, compareLex_eq_eq, compareOn, LawfulEqOrd.compare_eq_iff_eq] at same
    simp [same]

end Router

namespace Lease

def order : Lease → Lease → Ordering :=
  compareLex (compareOn gateway) (compareLex (compareOn tunnelId) (compareOn expires))

instance : Ord Lease := ⟨order⟩

instance : TransOrd Lease := inferInstanceAs (TransCmp (compareLex _ _))

instance : LawfulEqOrd Lease where
  eq_of_compare {a b} same := by
    cases a
    cases b
    change order _ _ = .eq at same
    simp only [order, compareLex_eq_eq, compareOn, LawfulEqOrd.compare_eq_iff_eq] at same
    simp [same]

end Lease

namespace LeaseSet

def order : LeaseSet → LeaseSet → Ordering :=
  compareLex (compareOn key) <| compareLex (compareOn signingKey) <|
    compareLex (compareOn leases) (compareOn published)

instance : Ord LeaseSet := ⟨order⟩

instance : TransOrd LeaseSet := inferInstanceAs (TransCmp (compareLex _ _))

instance : LawfulEqOrd LeaseSet where
  eq_of_compare {a b} same := by
    cases a
    cases b
    change order _ _ = .eq at same
    simp only [order, compareLex_eq_eq, compareOn, LawfulEqOrd.compare_eq_iff_eq] at same
    simp [same]

end LeaseSet

namespace Blinding

def order : Blinding → Blinding → Ordering :=
  compareLex (compareOn signingKey) <| compareLex (compareOn destination) (compareOn secret)

instance : Ord Blinding := ⟨order⟩

instance : TransOrd Blinding := inferInstanceAs (TransCmp (compareLex _ _))

instance : LawfulEqOrd Blinding where
  eq_of_compare {a b} same := by
    cases a
    cases b
    change order _ _ = .eq at same
    simp only [order, compareLex_eq_eq, compareOn, LawfulEqOrd.compare_eq_iff_eq] at same
    simp [same]

end Blinding

end PeerDirectory
