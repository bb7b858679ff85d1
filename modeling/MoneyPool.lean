import MoneyPool.AccruedTime
import MoneyPool.Available
import MoneyPool.Averages
import MoneyPool.Backing
import MoneyPool.Bridge.Credits
import MoneyPool.Bridge.Effect
import MoneyPool.Bridge.Entries
import MoneyPool.Bridge.EventLog
import MoneyPool.Bridge.Model
import MoneyPool.Bridge.Paused
import MoneyPool.Bridge.Rejected
import MoneyPool.Bridge.Release
import MoneyPool.Bridge.Settlements
import MoneyPool.Bridge.TxLife
import MoneyPool.Bridge.Vault
import MoneyPool.BtcBridge.KeyHistory
import MoneyPool.BtcBridge.SubKeys
import MoneyPool.Chain
import MoneyPool.DepositLoan.Accrual
import MoneyPool.DepositLoan.BlockHook
import MoneyPool.DepositLoan.Calls
import MoneyPool.DepositLoan.Hooks
import MoneyPool.DepositLoan.Lending
import MoneyPool.DepositLoan.Loans
import MoneyPool.DepositLoan.Savings
import MoneyPool.DepositLoan.Staking
import MoneyPool.Depositors
import MoneyPool.DrawCredit
import MoneyPool.Draws
import MoneyPool.DtokenHistory
import MoneyPool.Effect
import MoneyPool.ExchangeRate
import MoneyPool.FirstScan
import MoneyPool.GenericAsset.AssetLife
import MoneyPool.GenericAsset.Books
import MoneyPool.GenericAsset.Changes
import MoneyPool.GenericAsset.Conservation
import MoneyPool.GenericAsset.Entries
import MoneyPool.GenericAsset.Frozen
import MoneyPool.GenericAsset.Genesis
import MoneyPool.GenericAsset.Ledger
import MoneyPool.GenericAsset.LockIds
import MoneyPool.GenericAsset.LockLife
import MoneyPool.GenericAsset.Locks
import MoneyPool.GenericAsset.Model
import MoneyPool.GenericAsset.Overflow
import MoneyPool.GenericAsset.Permissions
import MoneyPool.GenericAsset.Refusals
import MoneyPool.GenericAsset.Registries
import MoneyPool.GenericAsset.Undo
import MoneyPool.Health
import MoneyPool.Interest
import MoneyPool.Isolation
import MoneyPool.Liquidation
import MoneyPool.LoanBook
import MoneyPool.LoanCap
import MoneyPool.LoanIndex
import MoneyPool.LoanLife
import MoneyPool.LoanRate
import MoneyPool.LoanTerms
import MoneyPool.NewOracle.Json
import MoneyPool.NewOracle.Model
import MoneyPool.NewOracle.Reports
import MoneyPool.NewOracle.Worker
import MoneyPool.Pallet.Atomic
import MoneyPool.Pallet.Bookkeeping
import MoneyPool.Pallet.Exec
import MoneyPool.Pallet.Flow
import MoneyPool.Pallet.Runs
import MoneyPool.Pallet.Scale
import MoneyPool.Pallet.ScaleWords
import MoneyPool.Pallet.Shares
import MoneyPool.Pallet.Simulation
import MoneyPool.Pallet.StorageMap
import MoneyPool.Pallet.Twox
import MoneyPool.Pallet.Word
import MoneyPool.Panics
import MoneyPool.Payments
import MoneyPool.PoolAccounting
import MoneyPool.PriceSources
import MoneyPool.Prices
import MoneyPool.RedeemExact
import MoneyPool.Repayment
import MoneyPool.RoundTrip
import MoneyPool.RuntimeState
import MoneyPool.Scan
import MoneyPool.Settings
import MoneyPool.Settlement
import MoneyPool.Statuses
import MoneyPool.Thresholds
import MoneyPool.Types
