import Mathlib.Data.List.TakeDrop
import Basketry.Proofs.Positions

namespace Basketry

namespace CallData

end CallData

namespace Chain
open CallData (selector encodeCall)

namespace TokenCall

/-- The selectors that a token knows, and one more that an adapter knows. -/
def selectors (adapter : Bool) : List (List UInt8) :=
  [selector transferSignature, selector mintSignature] ++
    if adapter then [selector claimRewardsSignature] else []

theorem mem_selectors {adapter : Bool} {bs : List UInt8} : bs ∈ selectors adapter ↔
    bs = selector transferSignature ∨ bs = selector mintSignature ∨
      adapter = true ∧ bs = selector claimRewardsSignature := by
  cases adapter <;> simp [selectors]

theorem length_of_mem_selectors {adapter : Bool} {bs : List UInt8} (h : bs ∈ selectors adapter) :
    bs.length = 4 := by
  have hall : ∀ x ∈ selectors adapter, x.length = 4 := by
    unfold selectors
    rw [transfer_selector, mint_selector, claimRewards_selector]
    cases adapter <;> decide
  exact hall bs h

/-- Bytes that do not begin with a selector are no call. -/
theorem decode_unselected {adapter : Bool} {bs : List UInt8} (h : bs.take 4 ∉ selectors adapter) :
    decode adapter bs = .error (.revert "Function selector was not recognized") := by
  rw [mem_selectors, not_or, not_or] at h
  obtain ⟨htransfer,hmint,hclaim⟩ := h
  simp only [decode]
  rw [if_neg htransfer, if_neg hmint, if_neg hclaim]

end TokenCall

variable {w : World} {set ref : Ref} {s : SetToken} {caller target : Value} {adapter : Bool}

end Chain

end Basketry
