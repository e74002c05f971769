import ContestExchange.Contest.Loading
import ContestExchange.Journal.Replay
import ContestExchange.Session.Settling
import ContestExchange.Proofs.Session.Learning
import ContestExchange.Proofs.Placement.Confluence
import ContestExchange.Proofs.Placement.Tables
import ContestExchange.Proofs.Session.Acknowledging
import ContestExchange.Proofs.Guess.Restoring
import ContestExchange.Proofs.Guess.Recording
import ContestExchange.Proofs.Guess.Guessing
import ContestExchange.Proofs.Session.Announcing
import ContestExchange.Proofs.Session.Accepting
import ContestExchange.Proofs.Session.Mirroring
import ContestExchange.Proofs.Field.Contest
import ContestExchange.Proofs.Json.Formats
import ContestExchange.Proofs.Exchange.Names
import ContestExchange.Proofs.Exchange.Rereading
import ContestExchange.Proofs.Exchange.Strays
import ContestExchange.Proofs.Journal.Checkpointing
import ContestExchange.Proofs.Journal.Standing
import ContestExchange.Proofs.Session.Compacting
import ContestExchange.Proofs.Field.Growing
import ContestExchange.Proofs.Field.CutNumbers
import ContestExchange.Proofs.Field.CountryValues
import ContestExchange.Proofs.Field.PatternSheets
import ContestExchange.Proofs.Guess.Suffixes
import ContestExchange.Proofs.Guess.Expecting
import ContestExchange.Proofs.Exchange.Received
import ContestExchange.Proofs.Pattern.Anchoring
