import Mathlib

namespace TokenFactory.Data

/-! An account with an escrow.

What was earned is available, or held back for a payment that is not decided yet
or has been made, or spent. A hold can be released again. The unit is any ordered
group.
-/

structure Escrow (Amount : Type u) where
  available : Amount
  held : Amount
  spent : Amount
  earned : Amount

namespace Escrow

inductive Move (Amount : Type u) where
  | idle
  | earn (amount : Amount)
  | hold (amount : Amount)
  | release (amount : Amount)
  | spend (amount : Amount)

variable {Amount : Type u} [AddCommGroup Amount]

def apply (account : Escrow Amount) : Move Amount → Escrow Amount
  | .idle => account
  | .earn amount =>
    { account with available := account.available + amount, earned := account.earned + amount }
  | .hold amount =>
    { account with available := account.available - amount, held := account.held + amount }
  | .release amount =>
    { account with available := account.available + amount, held := account.held - amount }
  | .spend amount =>
    { account with available := account.available - amount, spent := account.spent + amount }

/-- What is accounted for beyond the earnings. -/
def excess (account : Escrow Amount) : Amount :=
  account.available + account.held + account.spent - account.earned

@[simp] theorem excess_apply (account : Escrow Amount) (move : Move Amount) :
    (account.apply move).excess = account.excess := by
  cases move <;> simp only [apply, excess] <;> abel

variable [LinearOrder Amount] [IsOrderedAddMonoid Amount]

/-- Nothing negative comes in, and nothing goes out that is not available. -/
def Covers (account : Escrow Amount) : Move Amount → Prop
  | .idle => True
  | .earn amount | .release amount => 0 ≤ amount
  | .hold amount | .spend amount => amount ≤ account.available

theorem available_apply_nonneg {account : Escrow Amount} {move : Move Amount}
    (covered : account.Covers move) (before : 0 ≤ account.available) :
    0 ≤ (account.apply move).available := by
  cases move with
  | idle => exact before
  | earn amount | release amount => exact add_nonneg before covered
  | hold amount | spend amount => exact sub_nonneg.mpr covered

end Escrow

end TokenFactory.Data
