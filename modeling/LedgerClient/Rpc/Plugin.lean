/-!
# Plugins of a node

A node serves its methods from plugins, and a call has to name the plugin along with the method. A
method that no plugin of this table has is called under its own name.
-/

namespace LedgerClient.Rpc

/-- The plugins with their methods. -/
def plugins : List (String × List String) :=
  [("database_api",
     ["get_block_header", "get_block", "get_config", "get_dynamic_global_properties",
      "get_chain_properties", "get_hardfork_version", "get_next_scheduled_hardfork",
      "get_accounts", "lookup_account_names", "lookup_accounts", "get_account_count",
      "get_master_history", "get_recovery_request", "get_escrow", "get_withdraw_routes",
      "get_vesting_delegations", "get_expiring_vesting_delegations", "get_transaction_hex",
      "get_required_signatures", "get_potential_signatures", "verify_authority",
      "verify_account_authority", "get_database_info", "get_proposed_transaction",
      "get_proposed_transactions", "get_accounts_on_sale", "get_accounts_on_auction",
      "get_subaccounts_on_sale"]),
   ("network_broadcast_api",
     ["broadcast_transaction", "broadcast_transaction_synchronous",
      "broadcast_transaction_with_callback", "broadcast_block"]),
   ("account_history",
     ["get_account_history"]),
   ("operation_history",
     ["get_ops_in_block", "get_transaction"]),
   ("witness_api",
     ["get_active_witnesses", "get_witness_schedule", "get_witnesses", "get_witness_by_account",
      "get_witnesses_by_vote", "get_witnesses_by_counted_vote", "get_witness_count",
      "lookup_witness_accounts", "get_miner_queue"]),
   ("committee_api",
     ["get_committee_request", "get_committee_request_votes", "get_committee_requests_list"]),
   ("invite_api",
     ["get_invites_list", "get_invite_by_id", "get_invite_by_key"]),
   ("paid_subscription_api",
     ["get_paid_subscriptions", "get_paid_subscription_options", "get_paid_subscription_status",
      "get_active_paid_subscriptions", "get_inactive_paid_subscriptions"]),
   ("account_by_key",
     ["get_key_references"]),
   ("block_info",
     ["get_block_info", "get_blocks_with_info"]),
   ("raw_block",
     ["get_raw_block"]),
   ("custom_protocol_api",
     ["get_account"]),
   ("auth_util",
     ["check_authority_signature"])]

/-- The plugin that a call of a method names. -/
def pluginOf (method : String) : String :=
  match plugins.find? fun p => p.2.contains method with
  | some p => p.1
  | none => method

end LedgerClient.Rpc
