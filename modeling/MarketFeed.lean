import MarketFeed.Main
import MarketFeed.Payload.Named
import MarketFeed.Proofs.Attempts
import MarketFeed.Proofs.BookLevels
import MarketFeed.Proofs.BookInvariant
import MarketFeed.Proofs.LastWrite
import MarketFeed.Proofs.ReadingEffect
import MarketFeed.Proofs.RunAccount
import MarketFeed.Proofs.QuietScript
import MarketFeed.Proofs.RunSoFar
import MarketFeed.Proofs.InterruptedRun
import MarketFeed.Proofs.ChannelBooks
import MarketFeed.Proofs.TypedTopics
import MarketFeed.Proofs.PingAnswers
import MarketFeed.Proofs.RequestHistory
import MarketFeed.Proofs.Lifecycle
import MarketFeed.Proofs.RunEnding
import MarketFeed.Proofs.RequestStatus
import MarketFeed.Proofs.SessionCourse
import MarketFeed.Proofs.ReadingBack
import MarketFeed.Proofs.DocumentReading
import MarketFeed.Proofs.DecoderReading
import MarketFeed.Proofs.PayloadReading
import MarketFeed.Proofs.FrameRoundTrip
import MarketFeed.Proofs.FrameRefusal
import MarketFeed.Proofs.BookRestore
import MarketFeed.Proofs.DecodedRecords
import MarketFeed.Proofs.FrameClasses
import MarketFeed.Proofs.CanonicalForm
import MarketFeed.Proofs.FrameBoundaries
import MarketFeed.Proofs.LevelOrder
import MarketFeed.Proofs.ChannelGrammar
import MarketFeed.Proofs.ReadingOn
import MarketFeed.Proofs.FrameTexts
import MarketFeed.Proofs.ListedPayloads
import MarketFeed.Proofs.ConfirmationOrder
import MarketFeed.Proofs.EchoedTopic
import MarketFeed.Proofs.BestQuotes
import MarketFeed.Proofs.CallEffects
import MarketFeed.Proofs.PrintedFrames
import MarketFeed.Proofs.TableLines
import MarketFeed.Proofs.DocumentGrammar
import MarketFeed.Proofs.PassedOver
import MarketFeed.Proofs.TypedDocuments
import MarketFeed.Proofs.ReorderedDocuments
import MarketFeed.Proofs.MemberOrder
import MarketFeed.Proofs.QuotedIntegers
import MarketFeed.Proofs.DecimalFields
import MarketFeed.Proofs.RequotedFrames
import MarketFeed.Proofs.IntegerDecimals
