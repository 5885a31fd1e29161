import SourceWeaver.Main
import SourceWeaver.Session.Run
import SourceWeaver.Proofs.Scan.Steps
import SourceWeaver.Proofs.Scan.Visits
import SourceWeaver.Proofs.Settings.Valid
import SourceWeaver.Proofs.Text.Endings
import SourceWeaver.Proofs.Scan.Invariant
import SourceWeaver.Proofs.Document.Blanks
import SourceWeaver.Proofs.Scan.Passages
import SourceWeaver.Proofs.Scan.Independence
import SourceWeaver.Proofs.Scan.Levels
import SourceWeaver.Proofs.Document.Outline
import SourceWeaver.Proofs.Document.Fences
import SourceWeaver.Proofs.Document.Wrapper
import SourceWeaver.Proofs.Document.Sources
import SourceWeaver.Proofs.Path.Parts
import SourceWeaver.Proofs.Path.Order
import SourceWeaver.Proofs.Files.Trees
import SourceWeaver.Proofs.Files.Following
import SourceWeaver.Proofs.Files.Locating
import SourceWeaver.Proofs.Files.Writing
import SourceWeaver.Proofs.Files.Plain
import SourceWeaver.Proofs.Files.Revision
import SourceWeaver.Proofs.Session.Delivery
import SourceWeaver.Proofs.Session.Confinement
import SourceWeaver.Proofs.Session.Destinations
import SourceWeaver.Proofs.Session.Revision
import SourceWeaver.Proofs.Session.Batches
import SourceWeaver.Proofs.Settings.Keys
import SourceWeaver.Proofs.Discovery.Layers
import SourceWeaver.Proofs.Scan.Nesting
import SourceWeaver.Text.Reading
import SourceWeaver.Proofs.Document.Reading
import SourceWeaver.Proofs.Path.Components
import SourceWeaver.Proofs.Files.Spelling
import SourceWeaver.Proofs.Discovery.Nearest
import SourceWeaver.Proofs.Discovery.Relative
import SourceWeaver.Proofs.Scan.Accounting
import SourceWeaver.Proofs.Scan.Elisions
import SourceWeaver.Proofs.Scan.Indentation
import SourceWeaver.Proofs.Document.Leading
import SourceWeaver.Proofs.Scan.Switches
import SourceWeaver.Proofs.Scan.Repetition
import SourceWeaver.Proofs.Scan.Absorption
import SourceWeaver.Proofs.Document.Origins
import SourceWeaver.Proofs.Settings.Readers
import SourceWeaver.Proofs.Settings.CodeFences
import SourceWeaver.Proofs.Scan.Delimiters
import SourceWeaver.Proofs.Document.Margins
import SourceWeaver.Proofs.Files.Levels
import SourceWeaver.Proofs.Session.Collection
import SourceWeaver.Proofs.Document.Growth
