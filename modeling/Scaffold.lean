import Scaffold.Main
import Scaffold.Proofs.FileTree.Growth
import Scaffold.Proofs.FileTree.Save
import Scaffold.Proofs.Template.ExactSplit
import Scaffold.Proofs.Saving
import Scaffold.Proofs.Source.Standing
import Scaffold.Proofs.FileTree.Names
import Scaffold.Proofs.Role.Alphabet
import Scaffold.Proofs.Run.Repeat
import Scaffold.Proofs.Source.References
import Scaffold.Proofs.Run.DryRun
import Scaffold.Proofs.Source.Filling
import Scaffold.Proofs.Schema.Quoting
import Scaffold.Proofs.FileTree.Above
import Scaffold.Proofs.Layout.SourcePath
import Scaffold.Proofs.Layout.Distinct
import Scaffold.Proofs.Run.Order
import Scaffold.Proofs.CommandLine.Line
import Scaffold.Proofs.Source.Influence
import Scaffold.Proofs.Field.Imports
import Scaffold.Proofs.Field.Alignment
import Scaffold.Proofs.Field.ReadBack
import Scaffold.Proofs.FileTree.AllOrNothing
import Scaffold.Proofs.Text.Case
import Scaffold.Proofs.Identifier.Segments
import Scaffold.Proofs.JavaType.Priority
import Scaffold.Proofs.Identifier.Snake
import Scaffold.Proofs.Role.ClassName
import Scaffold.Proofs.Field.Inherited
import Scaffold.Proofs.Moment.Text
import Scaffold.Proofs.Moment.Order
import Scaffold.Proofs.Text.Escapes
import Scaffold.Proofs.Text.Comment
import Scaffold.Proofs.Field.Reordering
import Scaffold.Proofs.Source.Javadoc
import Scaffold.Proofs.Source.Reordering
