import DnsView.Files.Tree
import DnsView.Main
import DnsView.View.Edit
import DnsView.Proofs.Message.Names
import DnsView.Proofs.Text.Bytes
import DnsView.Proofs.Net.AddressTexts
import DnsView.Proofs.View.Mappings
import DnsView.Proofs.View.RecordRoundTrip
import DnsView.Proofs.View.MessageRoundTrip
import DnsView.Proofs.Json.Tokens
import DnsView.Proofs.Number.Intervals
import DnsView.Proofs.Json.DoubleNumerals
import DnsView.Proofs.Digest.Streams
import DnsView.Proofs.View.SettledValues
import DnsView.Proofs.View.Fingerprints
import DnsView.Proofs.View.Baselines
import DnsView.Proofs.Json.Readings
import DnsView.Proofs.View.ViewTexts
import DnsView.Proofs.Command.Runs
import DnsView.Proofs.View.RecordAccounts
import DnsView.Proofs.Json.Nesting
import DnsView.Proofs.Message.MessageTexts
import DnsView.Proofs.Command.DeviceRuns
import DnsView.Proofs.Command.Retries
import DnsView.Proofs.Number.Integers
import DnsView.Proofs.Number.Rounding
import DnsView.Proofs.Number.WholeNumbers
import DnsView.Proofs.View.LooseNumbers
import DnsView.Proofs.View.NumberValues
import DnsView.Proofs.View.CanonicalForms
import DnsView.Proofs.View.StrictReading
import DnsView.Proofs.View.StrayKeys
import DnsView.Proofs.View.TolerantQuestions
import DnsView.Proofs.AddressBook.LatestEntries
import DnsView.Proofs.Settings.Sources
import DnsView.Proofs.View.PartialDocuments
import DnsView.Proofs.Command.FirstFailures
import DnsView.Proofs.Json.NumeralScaling
import DnsView.Proofs.Json.Rereadings
import DnsView.Proofs.View.RereadViews
