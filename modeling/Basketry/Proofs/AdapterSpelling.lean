import Basketry.Morpho.Claim
import Basketry.Morpho.Wrap
import Basketry.Proofs.Spelling
import Basketry.Swap.Slipstream
import Basketry.Swap.Uniswap

namespace Basketry

/-- What every method of the four adapters answers is the same for addresses written by `f` as for
addresses written by `g`. -/
structure AdaptersAgree (f g : Value → Value) : Prop where
  uniswap : ∀ router,
    Swap.UniswapAdapter.ofValue (f router) = Swap.UniswapAdapter.ofValue (g router)
  uniswapTrade : ∀ (a : Swap.UniswapAdapter) (source destination recipient sold bought data : Value),
    a.trade (f source) (f destination) (f recipient) sold bought data =
      a.trade (g source) (g destination) (g recipient) sold bought data
  uniswapData : ∀ (tokens fees : List Value) (fixInput : Value),
    Swap.UniswapAdapter.tradeData (tokens.map f) fees fixInput =
      Swap.UniswapAdapter.tradeData (tokens.map g) fees fixInput
  slipstream : ∀ router hasClock,
    Swap.SlipstreamAdapter.ofValue (f router) hasClock =
      Swap.SlipstreamAdapter.ofValue (g router) hasClock
  slipstreamTrade : ∀ (a : Swap.SlipstreamAdapter)
      (source destination recipient sold bought data deadline : Value),
    a.trade (f source) (f destination) (f recipient) sold bought data deadline =
      a.trade (g source) (g destination) (g recipient) sold bought data deadline
  slipstreamPath : ∀ tokens spacings : List Value,
    Swap.SlipstreamAdapter.pathData (tokens.map f) spacings =
      Swap.SlipstreamAdapter.pathData (tokens.map g) spacings
  morpho : ∀ distributor,
    Morpho.ClaimAdapter.ofValue (f distributor) = Morpho.ClaimAdapter.ofValue (g distributor)
  morphoCall : ∀ (a : Morpho.ClaimAdapter) (account pool claimData : Value),
    a.claimCall (f account) (f pool) claimData = a.claimCall (g account) (g pool) claimData
  morphoToken : ∀ pool,
    Morpho.ClaimAdapter.rewardToken (f pool) = Morpho.ClaimAdapter.rewardToken (g pool)
  wrapper : ∀ wrapper legacyToken newToken,
    Morpho.WrapAdapter.ofValues (f wrapper) (f legacyToken) (f newToken) =
      Morpho.WrapAdapter.ofValues (g wrapper) (g legacyToken) (g newToken)
  wrapCall : ∀ (a : Morpho.WrapAdapter) (underlying wrapped amount receiver : Value),
    a.wrapCall (f underlying) (f wrapped) amount (f receiver) =
      a.wrapCall (g underlying) (g wrapped) amount (g receiver)

variable {f g : Value → Value}

theorem hopValues_respelled (h : ∀ v, (f v).Respelled (g v)) (tokens fees : List Value) :
    Swap.hopValues (tokens.map f) fees = Swap.hopValues (tokens.map g) fees := by
  induction tokens generalizing fees with
  | nil => rfl
  | cons token tokens ih =>
    cases fees with
    | nil => rfl
    | cons fee fees => simp only [List.map_cons, Swap.hopValues, (h token).ofValue_eq, ih]

theorem tradeData_respelled (h : ∀ v, (f v).Respelled (g v)) (tokens fees : List Value)
    (fixInput : Value) :
    Swap.UniswapAdapter.tradeData (tokens.map f) fees fixInput =
      Swap.UniswapAdapter.tradeData (tokens.map g) fees fixInput := by
  simp only [Swap.UniswapAdapter.tradeData, List.getLast?_map, List.length_map,
    ← List.map_dropLast, hopValues_respelled h]
  cases tokens.getLast? with
  | none => rfl
  | some last => simp only [Option.map_some, (h last).ofValue_eq]

theorem pathData_respelled (h : ∀ v, (f v).Respelled (g v)) (tokens spacings : List Value) :
    Swap.SlipstreamAdapter.pathData (tokens.map f) spacings =
      Swap.SlipstreamAdapter.pathData (tokens.map g) spacings := by
  simp only [Swap.SlipstreamAdapter.pathData, List.getLast?_map, List.length_map,
    ← List.map_dropLast, hopValues_respelled h]
  cases tokens.getLast? with
  | none => rfl
  | some last => simp only [Option.map_some, (h last).ofValue_eq]

/-- Each method reads its addresses before it compares or packs them. -/
theorem adapters_agree (h : ∀ v, (f v).Respelled (g v)) : AdaptersAgree f g where
  uniswap router := by simp only [Swap.UniswapAdapter.ofValue, (h router).ofValue_eq]
  uniswapTrade a source destination recipient sold bought data := by
    simp only [Swap.UniswapAdapter.trade, (h source).ofValue_eq, (h destination).ofValue_eq,
      (h recipient).ofValue_eq]
  uniswapData tokens fees fixInput := tradeData_respelled h tokens fees fixInput
  slipstream router hasClock := by
    simp only [Swap.SlipstreamAdapter.ofValue, (h router).ofValue_eq]
  slipstreamTrade a source destination recipient sold bought data deadline := by
    simp only [Swap.SlipstreamAdapter.trade, Swap.SlipstreamAdapter.checkedPath,
      Swap.SlipstreamAdapter.tradeCall, (h source).ofValue_eq, (h destination).ofValue_eq,
      (h recipient).ofValue_eq]
  slipstreamPath tokens spacings := pathData_respelled h tokens spacings
  morpho distributor := by
    simp only [Morpho.ClaimAdapter.ofValue, (h distributor).ofValue_eq]
  morphoCall a account pool claimData := by
    simp only [Morpho.ClaimAdapter.claimCall, (h account).ofValue_eq, (h pool).ofValue_eq]
  morphoToken pool := (h pool).ofValue_eq
  wrapper wrapper legacyToken newToken := by
    simp only [Morpho.WrapAdapter.ofValues, (h wrapper).ofValue_eq, (h legacyToken).ofValue_eq,
      (h newToken).ofValue_eq]
  wrapCall a underlying wrapped amount receiver := by
    simp only [Morpho.WrapAdapter.wrapCall, Morpho.WrapAdapter.checkPair,
      (h underlying).ofValue_eq, (h wrapped).ofValue_eq, (h receiver).ofValue_eq]

end Basketry
