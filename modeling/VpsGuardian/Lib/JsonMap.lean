import Mathlib
import VpsGuardian.Lib.Dict
import VpsGuardian.Lib.Json
import VpsGuardian.Lib.Utf8Order

/-!
String maps as JSON objects with sorted keys.

Go's encoder sorts the keys by their bytes, Python's by their code points. The
two orders agree, so the two objects do.
-/

namespace VpsGuardian.Lib.Json

def stringMembers (entries : List (String × String)) : Value :=
  .object (entries.map fun entry => (entry.1, .string entry.2))

/-- A `map[string]string` as `json.Marshal` orders it. -/
def goObject (m : Dict String) : Value :=
  stringMembers (m.entries.insertionSort fun a b => utf8 a.1 ≤ utf8 b.1)

/-- A `dict[str, str]` as `json.dumps(..., sort_keys=True)` orders it. -/
def pythonObject (m : Dict String) : Value :=
  stringMembers (m.entries.insertionSort fun a b => a.1 ≤ b.1)

theorem insertionSort_congr {α : Type} {r r' : α → α → Prop} [DecidableRel r] [DecidableRel r']
    (h : ∀ a b, r a b ↔ r' a b) (items : List α) :
    items.insertionSort r = items.insertionSort r' := by
  have hr : r = r' := by
    funext a b
    exact propext (h a b)
  subst hr
  congr

theorem goObject_eq_pythonObject (m : Dict String) : goObject m = pythonObject m := by
  unfold goObject pythonObject
  rw [insertionSort_congr fun a b => utf8_le_iff]

/-- A map with its entries in the order Go's encoder writes them. -/
def goSorted (m : Dict String) : Dict String where
  entries := m.entries.insertionSort fun a b => utf8 a.1 ≤ utf8 b.1
  nodup := (((List.perm_insertionSort _ m.entries).map Prod.fst).nodup_iff).mpr m.nodup

/-- Go writes a map that was decoded from its own text as it wrote it before. -/
theorem goObject_goSorted (m : Dict String) : goObject (goSorted m) = goObject m := by
  have htotal : Std.Total fun a b : String × String => utf8 a.1 ≤ utf8 b.1 :=
    ⟨fun a b => le_total _ _⟩
  have htrans : IsTrans (String × String) fun a b => utf8 a.1 ≤ utf8 b.1 :=
    ⟨fun a b c => le_trans⟩
  have hsorted := List.pairwise_insertionSort
    (fun a b : String × String => utf8 a.1 ≤ utf8 b.1) m.entries
  rw [goObject, goObject]
  exact congrArg stringMembers hsorted.insertionSort_eq

end VpsGuardian.Lib.Json
