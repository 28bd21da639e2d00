import Highlighter.Main
import Highlighter.Proofs.CommandLine.Run
import Highlighter.Proofs.Cosy.Calls
import Highlighter.Proofs.Html.Highlight
import Highlighter.Proofs.Language.Annotations
import Highlighter.Proofs.Language.Quotations
import Highlighter.Proofs.Language.Recolouring
import Highlighter.Proofs.Lexer.Agreement
import Highlighter.Proofs.Listing.Rearranged
import Highlighter.Proofs.Resolution
