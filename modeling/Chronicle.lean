import Chronicle.Abi.Encode
import Chronicle.Json.Reader
import Chronicle.Main
import Chronicle.Proofs.Registration
import Chronicle.Proofs.Classification
import Chronicle.Proofs.Runs
import Chronicle.Proofs.TypeReading
import Chronicle.Proofs.ArgumentTypes
import Chronicle.Proofs.Shapes
import Chronicle.Proofs.DecodeEncode
import Chronicle.Proofs.Interchange
import Chronicle.Proofs.EncodedCalls
import Chronicle.Proofs.ArgumentForms
import Chronicle.Proofs.TrailingBytes
import Chronicle.Proofs.BoundedArguments
import Chronicle.Proofs.CleanWords
import Chronicle.Proofs.StaticArguments
import Chronicle.Proofs.BatchDecoding
import Chronicle.Proofs.JsonStrings
import Chronicle.Proofs.JsonRoundTrip
import Chronicle.Proofs.DecodeSound
import Chronicle.Proofs.Amounts
import Chronicle.Proofs.KnownCalls
import Chronicle.Proofs.NarrationRuns
import Chronicle.Proofs.Sentences
import Chronicle.Proofs.Reports
import Chronicle.Proofs.Conversations
import Chronicle.Proofs.BatchIndependence
import Chronicle.Proofs.Precedence
import Chronicle.Proofs.NativeTransfers
import Chronicle.Proofs.Repetition
import Chronicle.Proofs.TokenCache
import Chronicle.Proofs.LabelCache
import Chronicle.Proofs.SharedNames
import Chronicle.Proofs.FailureMarks
import Chronicle.Proofs.Spellings
import Chronicle.Proofs.SpelledNarratives
import Chronicle.Proofs.AmountTexts
import Chronicle.Proofs.UniqueReading
import Chronicle.Proofs.Payments
import Chronicle.Proofs.FaithfulPayments
import Chronicle.Proofs.HashRounds
import Chronicle.Proofs.RegisteredPayments
import Chronicle.Proofs.InputNames
import Chronicle.Proofs.Omissions
import Chronicle.Proofs.Deployments
import Chronicle.Proofs.FullAddresses
import Chronicle.Proofs.AddedInterfaces
import Chronicle.Proofs.HexTexts
import Chronicle.Proofs.TokenReplies
import Chronicle.Proofs.DecimalTexts
import Chronicle.Proofs.NegativeAmounts
import Chronicle.Proofs.HexGrammar
import Chronicle.Proofs.HashForms
import Chronicle.Proofs.OverlaidLabels
import Chronicle.Proofs.SentenceForms
import Chronicle.Proofs.NamedParties
import Chronicle.Proofs.WrappedLines
import Chronicle.Proofs.SelectorTable
import Chronicle.Proofs.Membership
import Chronicle.Proofs.CollapsedTypes
import Chronicle.Proofs.LosslessForms
