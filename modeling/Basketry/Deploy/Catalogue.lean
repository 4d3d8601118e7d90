import Basketry.Artifact.Factory

namespace Basketry.Deploy

inductive Group where
  | libraries
  | modules
  | adapters
  | mocks
deriving DecidableEq, Repr

namespace Group

def all : List Group := [libraries, modules, adapters, mocks]

def name : Group → String
  | libraries => "libraries"
  | modules => "modules"
  | adapters => "adapters"
  | mocks => "mocks"

def ofName? (s : String) : Option Group := all.find? (·.name == s)

end Group

inductive Layout where
  /-- So many constructor arguments, and behind them libraries, each a name and an address. -/
  | create (contract : String) (arguments libraries : Nat)
  /-- The address of a contract that exists. -/
  | bind (contract : String)
  /-- The holder and the amount of the first tokens; decimals, name and symbol may be left out. -/
  | token
  /-- The name of a perpetuals module in front of its arguments. -/
  | perpetuals
  /-- A name that deploys nothing. -/
  | idle

/-- What a deployment comes down to: a contract to create or to bind. -/
structure Order where
  binds : Bool
  contract : String
  arguments : List Value
  /-- Libraries by name, where the contract is linked at all. -/
  libraries : Option (List (Value × Value)) := none

/-- Perpetuals modules take five arguments and three libraries. -/
def perpetualsOf (contract : String) : Layout := .create contract 5 3

def libraryMethods : List (String × Layout) :=
  [("deploy_compound", .create "Compound" 0 0), ("deploy_aave_v2", .create "AaveV2" 0 0),
   ("deploy_aave_v3", .create "AaveV3" 0 0), ("deploy_morpho", .create "Morpho" 0 0),
   ("deploy_perp_v2", .create "PerpV2" 0 0), ("deploy_position_v2", .create "PositionV2" 0 0),
   ("deploy_perp_v2_library_v2", .create "PerpV2LibraryV2" 0 0),
   ("deploy_perp_v2_positions", .create "PerpV2Positions" 0 0)]

def moduleMethods : List (String × Layout) :=
  [("deploy_basic_issuance_module", .create "BasicIssuanceModule" 1 0),
   ("deploy_issuance_module", .create "IssuanceModule" 1 0),
   ("deploy_debt_issuance_module", .create "DebtIssuanceModule" 1 0),
   ("deploy_debt_issuance_module_v2", .create "DebtIssuanceModuleV2" 1 0),
   ("deploy_debt_issuance_module_v3", .create "DebtIssuanceModuleV3" 2 0),
   ("deploy_slippage_issuance_module", .create "SlippageIssuanceModule" 1 0),
   ("deploy_amm_module", .create "AmmModule" 1 0),
   ("get_basic_issuance_module", .bind "BasicIssuanceModule"),
   ("deploy_streaming_fee_module", .create "StreamingFeeModule" 1 0),
   ("get_streaming_fee_module", .bind "StreamingFeeModule"),
   ("deploy_airdrop_module", .create "AirdropModule" 1 0),
   ("deploy_trade_module", .create "TradeModule" 1 0),
   ("deploy_wrap_module", .create "WrapModule" 2 0),
   ("deploy_claim_module", .create "ClaimModule" 1 0),
   ("deploy_staking_module", .create "StakingModule" 1 0),
   ("deploy_rebasing_component_module", .create "RebasingComponentModule" 1 0),
   ("deploy_custom_oracle_nav_issuance_module", .create "CustomOracleNavIssuanceModule" 2 0),
   ("deploy_single_index_module", .create "SingleIndexModule" 5 0),
   ("deploy_general_index_module", .create "GeneralIndexModule" 2 0),
   ("deploy_governance_module", .create "GovernanceModule" 1 0),
   ("deploy_compound_leverage_module", .create "CompoundLeverageModule" 5 1),
   ("deploy_aave_leverage_module", .create "AaveLeverageModule" 2 1),
   ("deploy_aave_v3_leverage_module", .create "AaveV3LeverageModule" 2 1),
   ("deploy_morpho_leverage_module", .create "MorphoLeverageModule" 2 1),
   ("deploy_notional_trade_module", .create "NotionalTradeModule" 5 0),
   ("deploy_wrap_module_v2", .create "WrapModuleV2" 2 0),
   ("_deploy_perp_module", .perpetuals),
   ("deploy_perp_v2_leverage_module_v2", perpetualsOf "PerpV2LeverageModuleV2"),
   ("deploy_perp_v2_basis_trading_module", perpetualsOf "PerpV2BasisTradingModule"),
   ("deploy_auction_rebalance_module_v1", .create "AuctionRebalanceModuleV1" 1 0),
   ("deploy_claim_module_v2", .create "ClaimModuleV2" 1 0)]

def adapterMethods : List (String × Layout) :=
  [("deploy_uniswap_v3_exchange_adapter_v3", .create "UniswapV3ExchangeAdapterV3" 1 0),
   ("deploy_aerodrome_slipstream_exchange_adapter", .create "AerodromeSlipstreamExchangeAdapter" 1 0),
   ("deploy_morpho_claim_v2_adapter", .create "MorphoClaimV2Adapter" 1 0),
   ("deploy_morpho_migration_wrap_v2_adapter", .create "MorphoMigrationWrapV2Adapter" 3 0)]

def mockMethods : List (String × Layout) :=
  [("deploy_claim_adapter_mock_v2", .create "ClaimAdapterMockV2" 0 0), ("deploy_token_mock", .token)]

def Group.methods : Group → List (String × Layout)
  | .libraries => libraryMethods
  | .modules => moduleMethods
  | .adapters => adapterMethods
  | .mocks => mockMethods

/-- The layout of a deployment. Every group also knows its manager, which deploys nothing by itself. -/
def Group.find? (g : Group) (method : String) : Option Layout :=
  (("contract_manager", .idle) :: g.methods).lookup method

/-- Whether two keys of a dictionary are the same key. -/
def sameKey : Value → Value → Bool
  | .text a, .text b => a == b
  | .null, .null => true
  | .bytes a, .bytes b => a == b
  | a, b => match a.int?, b.int? with
    | some m, some n => m == n
    | _, _ => false

/-- Lists and dictionaries are no keys. -/
def isKey : Value → Bool
  | .list _ | .dict _ => false
  | _ => true

def setLibrary (name address : Value) : List (Value × Value) → List (Value × Value)
  | [] => [(name, address)]
  | (n, a) :: rest => if sameKey n name then (n, address) :: rest else (n, a) :: setLibrary name address rest

/-- Names and addresses in turn. A name given twice has its last address. -/
def librariesOf (known : List (Value × Value)) : List Value → Except Fault (List (Value × Value))
  | name :: address :: rest =>
    if isKey name then librariesOf (setLibrary name address known) rest else .error .wrongType
  | _ => .ok known

def createOrder (contract : Value) (arguments libraries : Nat) (args : List Value) : Except Fault Order := do
  if args.length ≠ arguments + 2 * libraries then .error .wrongType
  let contract ← contract.shown
  if libraries = 0 then return ⟨false, contract, args, none⟩
  return ⟨false, contract, args.take arguments, some (← librariesOf [] (args.drop arguments))⟩

/-- The order that arguments amount to. Their number has to fit. -/
def Layout.order : Layout → List Value → Except Fault Order
  | .create contract arguments libraries, args => createOrder (.text contract) arguments libraries args
  | .bind contract, [address] => .ok ⟨true, contract, [address], none⟩
  | .token, holder :: amount :: rest =>
    if 3 < rest.length then .error .wrongType
    else
      let decimals := rest.getD 0 (.int 18)
      let name := rest.getD 1 (.text "Token")
      let symbol := rest.getD 2 (.text "TKN")
      .ok ⟨false, "StandardTokenMock", [holder, amount, name, symbol, decimals], none⟩
  | .perpetuals, contract :: args => createOrder contract 5 3 args
  | _, _ => .error .wrongType

/-- The libraries that can be linked: only texts name any. -/
def Order.linked (o : Order) : Value :=
  match o.libraries with
  | none => .null
  | some ls => .dict (ls.filterMap fun (name, address) => name.text?.map (·, address))

/-- Carries an order out and gives the address of the contract. -/
def Order.carryOut (o : Order) (m : Artifact.Manager) : Work Value :=
  if o.binds then m.attach o.contract (o.arguments.headD .null)
  else m.deploy o.contract o.arguments o.linked

end Basketry.Deploy
