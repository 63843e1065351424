import AffiliateLinks.Config
import AffiliateLinks.Markup.Monetize
import AffiliateLinks.Fingerprint
import AffiliateLinks.Link.Monetize
import AffiliateLinks.Link.Method
import AffiliateLinks.Batch.Document
import AffiliateLinks.Batch.Report
import AffiliateLinks.Batch.Run
import AffiliateLinks.Command.Arguments
import AffiliateLinks.Command.Run
import AffiliateLinks.Json.Decode
import AffiliateLinks.Main
import AffiliateLinks.Proofs.AnchorReading
import AffiliateLinks.Proofs.Numerals
import AffiliateLinks.Proofs.Cutting
import AffiliateLinks.Proofs.HostCharacters
import AffiliateLinks.Proofs.HttpUrl
import AffiliateLinks.Proofs.Splice
import AffiliateLinks.Proofs.TrimmedUrl
import AffiliateLinks.Proofs.BuiltConfig
import AffiliateLinks.Proofs.TaggedUrl
import AffiliateLinks.Proofs.QuotedLinks
import AffiliateLinks.Proofs.Retagging
import AffiliateLinks.Proofs.Schedules
import AffiliateLinks.Proofs.LedgerHistory
import AffiliateLinks.Proofs.StartTags
import AffiliateLinks.Proofs.TagReading
import AffiliateLinks.Proofs.TagAttributes
import AffiliateLinks.Proofs.PlainReading
import AffiliateLinks.Proofs.Documents
import AffiliateLinks.Proofs.AnchorTags
import AffiliateLinks.Proofs.SavedRuns
import AffiliateLinks.Proofs.RecordedBatches
import AffiliateLinks.Proofs.OutputFiles
import AffiliateLinks.Proofs.BareValues
import AffiliateLinks.Proofs.OpenTags
import AffiliateLinks.Proofs.RenderedTags
import AffiliateLinks.Proofs.SponsoredTags
import AffiliateLinks.Proofs.References
import AffiliateLinks.Proofs.SettledLinks
import AffiliateLinks.Proofs.Reruns
import AffiliateLinks.Proofs.TagPlacement
import AffiliateLinks.Proofs.FormPairs
import AffiliateLinks.Proofs.FormEncoding
import AffiliateLinks.Proofs.Redirects
import AffiliateLinks.Proofs.ConfigChange
import AffiliateLinks.Proofs.PageFronts
import AffiliateLinks.Proofs.MerchantLabels
import AffiliateLinks.Proofs.PlainHosts
import AffiliateLinks.Proofs.NumericHosts
import AffiliateLinks.Proofs.SkippedDomains
import AffiliateLinks.Proofs.OutputNames
import AffiliateLinks.Proofs.LedgerOrder
import AffiliateLinks.Proofs.ConfigSteps
import AffiliateLinks.Proofs.FailingWrites
import AffiliateLinks.Proofs.ReportFiles
import AffiliateLinks.Proofs.MergedSettings
import AffiliateLinks.Proofs.ThreadEvents
import AffiliateLinks.Proofs.LogLabels
