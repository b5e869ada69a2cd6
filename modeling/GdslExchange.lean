import GdslExchange.Orders.Writers
import GdslExchange.Orders.Acceptance
import GdslExchange.Orders.Synchronisers
import GdslExchange.Orders.LosingStreak
import GdslExchange.CrossChain.CreditOnce
import GdslExchange.CrossChain.Debit
import GdslExchange.Jupiter.EverySwap
import GdslExchange.Jupiter.Housekeeping
import GdslExchange.Spot.SellBooking
import GdslExchange.Wallet.FailedWithdrawal
import GdslExchange.CrossChain.Outflow
import GdslExchange.Wallet.Budget
import GdslExchange.Auth.Revocation
import GdslExchange.Auth.Guessing
import GdslExchange.Exits.Peak
import GdslExchange.Cex.CleanStart
import GdslExchange.Jupiter.DisplayedPnl
import GdslExchange.Paper.Drawdown
import GdslExchange.Paper.Conservation
import GdslExchange.Paper.Exposure
import GdslExchange.SuperMachine.Gate
import GdslExchange.SuperMachine.Caps
import GdslExchange.Signals.Signs
import GdslExchange.JupiterLimit.Once
import GdslExchange.JupiterLimit.FillPrice
import GdslExchange.JupiterAutopilot.Spacing
import GdslExchange.JupiterBrowser.Relay
import GdslExchange.JupiterBrowser.Lots
import GdslExchange.CexManual.Preflight
import GdslExchange.ExitConfig.Frame
import GdslExchange.Signals.Learning
import GdslExchange.Market.Holes
import GdslExchange.Ledger.Requests
import GdslExchange.Telegram.Linking
import GdslExchange.Onramp.Webhook
import GdslExchange.Exchange.Permissions
import GdslExchange.Cex.Tracking
import GdslExchange.Convert.Taking
import GdslExchange.Orders.Notional
import GdslExchange.Convert.SwapAmount
import GdslExchange.Jupiter.ReferredBuys
import GdslExchange.Pancake.Sending
import GdslExchange.Ml.Champion
import GdslExchange.JupiterPrediction.Reporting
import GdslExchange.Engine.Sessions
import GdslExchange.BinanceExecutor.OneOrder
import GdslExchange.Cex.SkimSlice
import GdslExchange.Jupiter.BreakEven
import GdslExchange.SuperMachine.Kelly
import GdslExchange.SuperMachine.PolicyGates
import GdslExchange.SuperMachine.Ranking
import GdslExchange.SuperMachine.Voting
import GdslExchange.JupiterPrediction.Edge
import GdslExchange.JupiterPrediction.Probability
import GdslExchange.Spot.SmartRouter
import GdslExchange.JupiterPrediction.StrikeReading
import GdslExchange.Trades.ExternalWallet
import GdslExchange.Wallet.SolanaHoldings
import GdslExchange.Execution.Gate
import GdslExchange.Exchange.LiveOrderSizing
import GdslExchange.Spot.OneInch
import GdslExchange.Advanced.TrailingStop
import GdslExchange.Live.Advice
import GdslExchange.Market.RestLimiter
import GdslExchange.Signals.ProvidersHub
import GdslExchange.Market.Indicators
import GdslExchange.Market.LongHorizon
import GdslExchange.Execution.Routes
import GdslExchange.Telegram.Queue
import GdslExchange.Signals.TopPicks
import GdslExchange.Telegram.Markdown
import GdslExchange.Trades.PublicLog
import GdslExchange.Backtest.Runner
