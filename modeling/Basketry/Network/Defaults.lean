import Basketry.Value

namespace Basketry.Network

def localNode : Value := .dict
  [("http_url_env", .text "LOCAL_RPC_URL"), ("default_http_url", .text "http://127.0.0.1:8545"),
   ("rpc_namespace", .text "hardhat"), ("request_timeout", .int 120)]

def mainnet : Value := .dict
  [("name", .text "Ethereum Mainnet"), ("chain_id", .int 1), ("rpc_url_env", .text "MAINNET_RPC_URL"),
   ("default_block_number", .int 21569105)]

def base : Value := .dict
  [("name", .text "Base"), ("chain_id", .int 8453), ("rpc_url_env", .text "BASE_RPC_URL"),
   ("default_block_number", .null)]

def retry : Value := .dict [("max_retries", .int 3), ("backoff_seconds", .int 1)]

def defaults : Value := .dict
  [("local_node", localNode), ("forks", .dict [("mainnet", mainnet), ("base", base)]), ("retry", retry)]

end Basketry.Network
