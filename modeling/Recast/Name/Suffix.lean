/-!
# Numbered names

Names that are taken are told apart by a number behind an underscore, the least one that gives a
free name.
-/

namespace Recast.Name

/-- A name with a number behind an underscore. -/
def numbered (name : String) (n : Nat) : String :=
  name ++ "_" ++ toString n

/-- The least number from `n` on that is free, found in at most `fuel` steps. Among as many numbers
as there are taken names and one more, one is free. -/
def leastFree (taken : Nat → Bool) : Nat → Nat → Nat
  | 0, n => n
  | fuel + 1, n => if taken n then leastFree taken fuel (n + 1) else n

end Recast.Name
