import WikiNotes.Config.LogLevel
import WikiNotes.Main
import WikiNotes.Proofs.Text.Blank
import WikiNotes.Proofs.Note.Link
import WikiNotes.Proofs.Path
import WikiNotes.Proofs.Path.Beneath
import WikiNotes.Proofs.Scan
import WikiNotes.Proofs.Storage.Memory
import WikiNotes.Proofs.Tree
import WikiNotes.Proofs.Index.TagTable
import WikiNotes.Proofs.Index.TagRelation
import WikiNotes.Proofs.Index.Coherence
import WikiNotes.Proofs.Index.Consistency
import WikiNotes.Proofs.Index.Registry
import WikiNotes.Proofs.Index.Update
import WikiNotes.Proofs.Index.Every
import WikiNotes.Proofs.Index.Mirror
import WikiNotes.Proofs.Index.Effect
import WikiNotes.Proofs.Index.Agreement
import WikiNotes.Proofs.Index.View
import WikiNotes.Proofs.Index.Links
import WikiNotes.Proofs.Index.ListingOrder
import WikiNotes.Proofs.Index.Insertion
import WikiNotes.Proofs.Index.Notice
import WikiNotes.Proofs.Index.Removal
import WikiNotes.Proofs.Index.RemovalOrder
import WikiNotes.Proofs.Vault.Coordinator
import WikiNotes.Proofs.Vault.LastWins
import WikiNotes.Proofs.Vault.Batch
import WikiNotes.Proofs.Vault.Incremental
import WikiNotes.Proofs.Vault.Coalescing
import WikiNotes.Proofs.Vault.Notification
import WikiNotes.Proofs.Vault.Arrival
import WikiNotes.Proofs.Vault.Eligibility
import WikiNotes.Proofs.Text.Lowercase
import WikiNotes.Proofs.Naming
import WikiNotes.Proofs.Vault.OwnName
import WikiNotes.Proofs.Vault.NotePath
import WikiNotes.Proofs.Note.WrittenLink
import WikiNotes.Proofs.Note.CodeSpan
import WikiNotes.Proofs.Note.Fence
import WikiNotes.Proofs.Note.Ticks
import WikiNotes.Proofs.Note.Segment
import WikiNotes.Proofs.Note.CodeStructure
import WikiNotes.Proofs.Note.CodeInterval
import WikiNotes.Proofs.Index.Repetition
import WikiNotes.Proofs.Vault.TagListing
import WikiNotes.Proofs.Index.Search
import WikiNotes.Proofs.Text.Sigma
import WikiNotes.Proofs.Vault.LiteralMatch
import WikiNotes.Proofs.Scan.Reach
import WikiNotes.Proofs.Scan.Walk
import WikiNotes.Proofs.Note.CodeBehind
import WikiNotes.Proofs.Note.LinkBehind
import WikiNotes.Proofs.Note.FrontMatter
import WikiNotes.Proofs.Note.Passage
import WikiNotes.Proofs.Note.Tag
import WikiNotes.Proofs.Note.FencedLine
import WikiNotes.Proofs.Note.Heading
import WikiNotes.Proofs.Note.LineNumber
import WikiNotes.Proofs.Note.SlugReference
import WikiNotes.Proofs.LineEnd.Note
import WikiNotes.Proofs.Note.SlugHyphen
