/-!
# Sets of characters

A set of characters is given by the runs of code points it is made of.  `CharSet.mem`
is the membership test of such a set, and the tables of the neighbouring modules are
values of this type.
-/

namespace Storekeeper.Text

/-- A set of characters, as a list of runs of code points, first and last included. -/
abbrev CharSet := List (Nat × Nat)

/-- Whether `c` lies in one of the runs of `s`. -/
def CharSet.mem (s : CharSet) (c : Char) : Bool :=
  s.any fun run => run.1 ≤ c.toNat && c.toNat ≤ run.2

@[simp]
theorem CharSet.mem_nil (c : Char) :
  CharSet.mem [] c = false
  := rfl

theorem CharSet.mem_cons (run : Nat × Nat) (s : CharSet) (c : Char) :
  CharSet.mem (run :: s) c = ((run.1 ≤ c.toNat && c.toNat ≤ run.2) || CharSet.mem s c)
  := rfl

end Storekeeper.Text
