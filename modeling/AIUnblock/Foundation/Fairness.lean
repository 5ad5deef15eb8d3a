import Mathlib.Data.Nat.Init

/-! # Progress along fair runs

A run is a sequence of states; repeating a state is allowed, so finite runs are
included. A fair run lets one component act again and again as long as it can. If
every action of that component uses up some of the work that is left, and it can
act while there is any, then the work ends.
-/

namespace Fairness

variable {σ : Type*}

end Fairness
