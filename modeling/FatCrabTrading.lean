import FatCrabTrading.Effect.Contract
import FatCrabTrading.Maker.Maker
import FatCrabTrading.Taker.Taker
import FatCrabTrading.Purse.Purse
import FatCrabTrading.Purse.Service
import FatCrabTrading.Purse.Ledger
import FatCrabTrading.Purse.Solvency
import FatCrabTrading.Purse.Conservation
import FatCrabTrading.Purse.Promises
import FatCrabTrading.Purse.Height
import FatCrabTrading.Mirror
import FatCrabTrading.Persist.Persister
import FatCrabTrading.Persist.Stores
import FatCrabTrading.Persist.Restore
import FatCrabTrading.Persist.Sessions
import FatCrabTrading.OrderBook
import FatCrabTrading.Amounts
import FatCrabTrading.Maker.Quiet
import FatCrabTrading.Maker.Lifecycle
import FatCrabTrading.Maker.PaymentGate
import FatCrabTrading.Maker.PeerMessage
import FatCrabTrading.Trader.Surroundings
import FatCrabTrading.Taker.TradeResponse
import FatCrabTrading.Listening
import FatCrabTrading.Maker.Audit
import FatCrabTrading.Taker.Quiet
import FatCrabTrading.Taker.Lifecycle
import FatCrabTrading.Taker.Audit
import FatCrabTrading.Trader.Wallet
import FatCrabTrading.Trader.Trader
import FatCrabTrading.Trader.Ledger
import FatCrabTrading.Trader.Funds
import FatCrabTrading.Trader.Run
import FatCrabTrading.Trader.Payments
import FatCrabTrading.Trader.Release
import FatCrabTrading.Trader.Reservations
import FatCrabTrading.Trader.Notices
import FatCrabTrading.Trader.Crash
import FatCrabTrading.Cooperation.Protocol
import FatCrabTrading.Cooperation.Maker
import FatCrabTrading.Cooperation.Taker
import FatCrabTrading.Cooperation.Trade
import FatCrabTrading.Cooperation.Progress
import FatCrabTrading.Cooperation.Completion
import FatCrabTrading.Endurance
import FatCrabTrading.ErrAnswer
import FatCrabTrading.Maker.Coherence
import FatCrabTrading.Refusal
import FatCrabTrading.Taker.Coherence
import FatCrabTrading.Departure
import FatCrabTrading.OrderKinds
import FatCrabTrading.OrderEncoding
import FatCrabTrading.Trader.Withdrawal
import FatCrabTrading.Trader.Shutdown
import FatCrabTrading.Trader.Closing
import FatCrabTrading.Trader.Registry
import FatCrabTrading.Trader.Creation
import FatCrabTrading.Persist.TornWrites
import FatCrabTrading.Effect.Service
import FatCrabTrading.Trader.Mailbox
import FatCrabTrading.Persist.Upkeep
import FatCrabTrading.Persist.PurseFile
import FatCrabTrading.Trader.Owners
import FatCrabTrading.Persist.Keeper
import FatCrabTrading.Persist.TradeFile
import FatCrabTrading.Picture
import FatCrabTrading.Trader.Settlement
import FatCrabTrading.Uptake
import FatCrabTrading.Trader.Bidding
