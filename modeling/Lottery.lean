import Lottery.Book
import Lottery.Service.Framework
import Lottery.Proofs.Book
import Lottery.Proofs.Exposure.Caps
import Lottery.Proofs.Payout.Rules
import Lottery.Proofs.Slip.Accounts
import Lottery.Proofs.Play.Grouping
import Lottery.Proofs.Slip.Numerals
import Lottery.Proofs.Slip.Agreement
import Lottery.Proofs.Slip.Joining
import Lottery.Proofs.Exposure.Spellings
import Lottery.Proofs.Json
import Lottery.Proofs.Price.Fallback
import Lottery.Proofs.Slip.Locking
import Lottery.Proofs.Exposure.Parles
import Lottery.Proofs.Payout.Parles
import Lottery.Proofs.Slip.PairOrder
import Lottery.Proofs.Slip.Booked
import Lottery.Proofs.Exposure.Located
import Lottery.Proofs.Exposure.ZeroLimits
import Lottery.Proofs.Play.Bounds
import Lottery.Proofs.Service.Reading
import Lottery.Proofs.Service.Regular
import Lottery.Proofs.Payout.Winning
import Lottery.Proofs.Payout.Failures
import Lottery.Proofs.Exposure.Recorded
import Lottery.Proofs.Slip.Expansion
import Lottery.Proofs.Slip.Listed
import Lottery.Proofs.Slip.Slots
import Lottery.Proofs.Slip.Commands
import Lottery.Proofs.Slip.Duplicates
import Lottery.Proofs.Price.Validity
import Lottery.Proofs.Money.Twice
import Lottery.Proofs.Exposure.Verdicts
import Lottery.Proofs.Numbers.Charged
import Lottery.Proofs.Slip.LetterCase
import Lottery.Proofs.Payout.Draws
import Lottery.Proofs.Play.Balances
import Lottery.Proofs.Parles
