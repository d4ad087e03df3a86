import Watershed.Allocation.Change
import Watershed.Allocation.Draw
import Watershed.Board
import Watershed.Clock
import Watershed.Config
import Watershed.Count
import Watershed.Decimal.Arith
import Watershed.Decimal.Basic
import Watershed.Decimal.Binary64
import Watershed.Decimal.Reader
import Watershed.Distribution.Distributor
import Watershed.Distribution.Overrun
import Watershed.Distribution.Proportional
import Watershed.Distribution.Share
import Watershed.Distribution.Tiered
import Watershed.Document.Configuration
import Watershed.Document.Datum
import Watershed.Document.Form
import Watershed.Document.Json
import Watershed.Document.Plain
import Watershed.Document.Records
import Watershed.Document.Reports
import Watershed.Document.Yaml.Flow
import Watershed.Document.Yaml.Glyph
import Watershed.Document.Yaml.Reader
import Watershed.Document.Yaml.Token
import Watershed.Economy.Multipliers
import Watershed.Economy.Revenue
import Watershed.Founding
import Watershed.Game.Basic
import Watershed.Game.Registry
import Watershed.Game.Steps
import Watershed.Game.Trade
import Watershed.Game.Turnover
import Watershed.Ident
import Watershed.Instant
import Watershed.Kinds
import Watershed.Ledger.Audit
import Watershed.Ledger.Basic
import Watershed.Ledger.Draft
import Watershed.Ledger.Entry
import Watershed.Main
import Watershed.Proofs.Allocation.Answer
import Watershed.Proofs.Allocation.Change
import Watershed.Proofs.Allocation.Draw
import Watershed.Proofs.Allocation.GiveBack
import Watershed.Proofs.Allocation.Owned
import Watershed.Proofs.Board.Water
import Watershed.Proofs.Distribution.Fair
import Watershed.Proofs.Distribution.Laid
import Watershed.Proofs.Distribution.Tiered
import Watershed.Proofs.Game.Act
import Watershed.Proofs.Game.Books
import Watershed.Proofs.Game.Capacity
import Watershed.Proofs.Game.Criterion
import Watershed.Proofs.Game.Dealing
import Watershed.Proofs.Game.Independence
import Watershed.Proofs.Game.Mirror
import Watershed.Proofs.Game.Ownership
import Watershed.Proofs.Game.Spendable
import Watershed.Proofs.Game.Steps
import Watershed.Proofs.Game.Titles
import Watershed.Proofs.Game.Turnover
import Watershed.Proofs.Game.Volume
import Watershed.Proofs.Ledger.Flow
import Watershed.Proofs.Ledger.Record
import Watershed.Proofs.Outcome
import Watershed.Proofs.Rainfall
import Watershed.Proofs.Roll.Amount
import Watershed.Proofs.Roll.Lookup
import Watershed.Proofs.Roll.Sum
import Watershed.Proofs.Season.Audit
import Watershed.Proofs.Season.Call
import Watershed.Proofs.Season.Criterion
import Watershed.Proofs.Season.Protocol
import Watershed.Proofs.Season.Refused
import Watershed.Proofs.Season.Spending
import Watershed.Proofs.Season.Start
import Watershed.Proofs.Season.Steps
import Watershed.Proofs.Steps
import Watershed.Rainfall
import Watershed.Random.Cipher
import Watershed.Random.Stream
import Watershed.RatioSeries
import Watershed.Roll
import Watershed.Season.Basic
import Watershed.Season.Phases
import Watershed.Season.Play
import Watershed.Season.Steps
import Watershed.Settings
import Watershed.Strategies
import Watershed.Text.Blank
import Watershed.Text.Extender
import Watershed.Text.Numeral
import Watershed.Text.Quoted
import Watershed.Text.Unassigned
import Watershed.Proofs.Founding.Roster
import Watershed.Proofs.Founding.Scenario
import Watershed.Proofs.Founding.Entering
import Watershed.Proofs.Game.Money
import Watershed.Proofs.Season.Payment
import Watershed.Season.Turns
import Watershed.Proofs.Season.Wants
import Watershed.Proofs.Season.Turns
import Watershed.Proofs.Season.Hall
import Watershed.Proofs.Season.Greedy
import Watershed.Proofs.Distribution.Bounds
import Watershed.Proofs.Distribution.Levels
import Watershed.Proofs.Distribution.Overrun
import Watershed.Proofs.Distribution.Placement
import Watershed.Proofs.Distribution.Progress
import Watershed.Proofs.Distribution.Proportion
import Watershed.Proofs.Distribution.Proportional
import Watershed.Proofs.Distribution.Shares
import Watershed.Proofs.Season.Ready
import Watershed.Proofs.Season.Playthrough
import Watershed.Proofs.Game.Exact
import Watershed.Proofs.Game.Reckoning
import Watershed.Proofs.Game.Trading
import Watershed.Proofs.Game.Undo
import Watershed.Proofs.Season.Undo
import Watershed.Proofs.Season.Summaries
import Watershed.Proofs.Board.Owners
import Watershed.Proofs.Distribution.Monotone
import Watershed.Proofs.Distribution.Agreement
import Watershed.Proofs.Distribution.Overwriting
import Watershed.Proofs.Game.Overwriting
import Watershed.Proofs.Game.Notices
import Watershed.Ledger.Walk
import Watershed.Proofs.Ledger.Walk
import Watershed.Proofs.Ledger.Holdings
import Watershed.Proofs.Ledger.DoubleEntry
import Watershed.Proofs.Ledger.Drafting
import Watershed.Proofs.Decimal.Rounding
import Watershed.Proofs.Decimal.Value
import Watershed.Proofs.Rainfall.Series
import Watershed.Proofs.Decimal.Reading
import Watershed.Proofs.RatioSeries
import Watershed.Economy.Steps
import Watershed.Proofs.Economy.Multipliers
import Watershed.Proofs.Decimal.Fitting
import Watershed.Proofs.Decimal.Product
import Watershed.Proofs.Decimal.Quotient
import Watershed.Proofs.Economy.Revenue
import Watershed.Proofs.Season.Gains
import Watershed.Allocation.Steps
import Watershed.Document.Writing
import Watershed.Proofs.Rainfall.Band
import Watershed.Proofs.Allocation.Parts
import Watershed.Proofs.Allocation.Sources
import Watershed.Proofs.Allocation.Order
import Watershed.Proofs.Allocation.Fewest
import Watershed.Proofs.Text.Numeral
import Watershed.Proofs.Document.Writing
import Watershed.Proofs.Document.Text
import Watershed.Proofs.Document.Json
import Watershed.Proofs.Document.Form
import Watershed.Proofs.Document.Records
import Watershed.Proofs.Ident
import Watershed.Proofs.Instant.Date
import Watershed.Proofs.Instant.Text
import Watershed.Distribution.Steps
import Watershed.Proofs.Distribution.Grouping
import Watershed.Clock.Steps
import Watershed.Proofs.Clock
