import SqlLexer.Main
import SqlLexer.Word.DataTypes
import SqlLexer.Proofs.Splitting
import SqlLexer.Proofs.Position
import SqlLexer.Proofs.CommentOpeners
import SqlLexer.Proofs.Name.Irrelevance
import SqlLexer.Proofs.Name.Separation
import SqlLexer.Proofs.Name.Recasing
import SqlLexer.Proofs.TokenStream.Attempt
import SqlLexer.Proofs.Cursor.Split
import SqlLexer.Proofs.Lookahead
import SqlLexer.Proofs.CommandLine.NameListing
import SqlLexer.Proofs.CommandLine.TokenListing
import SqlLexer.Proofs.Name.Folding
import SqlLexer.Proofs.Symbols
import SqlLexer.Proofs.Cursor.Number
import SqlLexer.Proofs.Neighbours
import SqlLexer.Proofs.TokenStream.EndMark
import SqlLexer.Proofs.Name.Progress
import SqlLexer.Proofs.Name.Unquoting
import SqlLexer.Proofs.Word.Lookup
import SqlLexer.Proofs.Cursor.Frozen
import SqlLexer.Proofs.Cursor.Lexing
