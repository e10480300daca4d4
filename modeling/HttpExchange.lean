import HttpExchange.Bench.World
import HttpExchange.Describe
import HttpExchange.Timeouts.Json
import HttpExchange.Proofs.Custody
import HttpExchange.Proofs.Cancellation
import HttpExchange.Proofs.Verdict
import HttpExchange.Proofs.Reference
import HttpExchange.Proofs.Sending
import HttpExchange.Proofs.Transmission
import HttpExchange.Proofs.Interleaving
import HttpExchange.Proofs.Unwinding
import HttpExchange.Proofs.Polling
import HttpExchange.Proofs.Expiry
import HttpExchange.Proofs.Settlement
import HttpExchange.Proofs.Withdrawal
import HttpExchange.Proofs.Flushing
import HttpExchange.Proofs.Reuse
import HttpExchange.Proofs.Lockstep
import HttpExchange.Proofs.Translation
import HttpExchange.Proofs.Isolation
import HttpExchange.Proofs.Hearing
import HttpExchange.Proofs.Telling
import HttpExchange.Proofs.Stalling
import HttpExchange.Proofs.Repetition
import HttpExchange.Proofs.Attending
import HttpExchange.Proofs.Contract
import HttpExchange.Proofs.Listening
import HttpExchange.Proofs.Silence
import HttpExchange.Proofs.Streams
import HttpExchange.Proofs.Metering
import HttpExchange.Proofs.Yielding
import HttpExchange.Proofs.Abandonment
import HttpExchange.Proofs.Encoding
import HttpExchange.Proofs.Decoding
import HttpExchange.Proofs.Admitting
import HttpExchange.Proofs.Deadlines
import HttpExchange.Proofs.Numerals
import HttpExchange.Proofs.Declaring
import HttpExchange.Proofs.Classifying
import HttpExchange.Proofs.Exhaustion
import HttpExchange.Proofs.Collecting
import HttpExchange.Proofs.Lexing
import HttpExchange.Proofs.Saving
import HttpExchange.Proofs.Periods
import HttpExchange.Proofs.PollLoop
import HttpExchange.Proofs.Defending
