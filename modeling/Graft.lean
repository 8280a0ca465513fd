import Graft.Release
import Graft.Session
import Graft.Store.Seed
import Graft.Suffix
import Graft.Proofs.Occurrence
import Graft.Proofs.Splicing
import Graft.Proofs.Guarded
import Graft.Proofs.Reordering
import Graft.Proofs.Supply
import Graft.Proofs.Uniform
import Graft.Proofs.Stream
import Graft.Proofs.AllOrNothing
import Graft.Proofs.Reach
import Graft.Proofs.Buffer
import Graft.Proofs.Counting
import Graft.Proofs.OnePass
import Graft.Proofs.FilledWebhook
import Graft.Proofs.Parent
import Graft.Proofs.Plain
import Graft.Proofs.Agreement
import Graft.Proofs.Interleaving
import Graft.Proofs.Overriding
import Graft.Proofs.Loading
import Graft.Proofs.WrittenSettings
import Graft.Proofs.Tree
import Graft.Proofs.RoundTrip
import Graft.Proofs.ByteSearch
import Graft.Proofs.Exchanging
import Graft.Proofs.Inserting
import Graft.Proofs.Uncommenting
import Graft.Proofs.CommentedBlock
import Graft.Proofs.OctalMode
import Graft.Proofs.Message
import Graft.Proofs.Journal
import Graft.Proofs.NonEmptyLines
