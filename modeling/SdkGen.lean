import SdkGen.Arguments
import SdkGen.Command.Host
import SdkGen.Command.Invocation
import SdkGen.Command.Run
import SdkGen.Command.Steps
import SdkGen.Command.Workspace
import SdkGen.Config.ArgumentSupply
import SdkGen.Config.Environment
import SdkGen.Config.FlagOptions
import SdkGen.Config.FlagSign
import SdkGen.Config.Flags
import SdkGen.Config.ItemList
import SdkGen.Config.Options
import SdkGen.Config.Schema
import SdkGen.Config.Sources
import SdkGen.Config.Standard
import SdkGen.Config.Supply
import SdkGen.Config.VariableFile
import SdkGen.Console.Colour
import SdkGen.Console.Emoji
import SdkGen.Console.Layout
import SdkGen.Console.Literal
import SdkGen.Console.Literal.Content
import SdkGen.Console.Literal.Format
import SdkGen.Console.Literal.Reader
import SdkGen.Console.Literal.Token
import SdkGen.Console.Markup
import SdkGen.Console.Style
import SdkGen.Conventions
import SdkGen.Decimal.Layout
import SdkGen.Decimal.Shortest
import SdkGen.Dict
import SdkGen.Emission
import SdkGen.Failure
import SdkGen.Generate
import SdkGen.Journal
import SdkGen.Json.Printer
import SdkGen.Json.Reader
import SdkGen.Loading
import SdkGen.Loading.Member
import SdkGen.Loading.Raised
import SdkGen.Main
import SdkGen.Model.Basic
import SdkGen.Model.Build
import SdkGen.Model.Derived
import SdkGen.Model.Describe
import SdkGen.Model.Reader
import SdkGen.Model.Rename
import SdkGen.Moment
import SdkGen.Pass.Basic
import SdkGen.Pass.Resolve
import SdkGen.Pass.Settle
import SdkGen.Problem
import SdkGen.Proofs.Arguments.Placeholder
import SdkGen.Proofs.Arguments.Positions
import SdkGen.Proofs.Arguments.Reading
import SdkGen.Proofs.Command.Run
import SdkGen.Proofs.Command.Targets
import SdkGen.Proofs.Config.Precedence
import SdkGen.Proofs.Config.Sources
import SdkGen.Proofs.Dict
import SdkGen.Proofs.Emission
import SdkGen.Proofs.Emission.Location
import SdkGen.Proofs.Emission.Record
import SdkGen.Proofs.Failures
import SdkGen.Proofs.Generate.Closure
import SdkGen.Proofs.Generate.Contexts
import SdkGen.Proofs.Generate.Histories
import SdkGen.Proofs.Generate.Languages
import SdkGen.Proofs.Generate.Mirror
import SdkGen.Proofs.Generate.Outcome
import SdkGen.Proofs.Generate.Rounds
import SdkGen.Proofs.Generate.Seeds
import SdkGen.Proofs.Generate.Shares
import SdkGen.Proofs.Loading
import SdkGen.Proofs.Model.Built
import SdkGen.Proofs.Model.Changes
import SdkGen.Proofs.Model.Mirror
import SdkGen.Proofs.Model.Rules
import SdkGen.Proofs.Pass.Agreement
import SdkGen.Proofs.Pass.Alike
import SdkGen.Proofs.Pass.Bookkeeping
import SdkGen.Proofs.Pass.Calls
import SdkGen.Proofs.Pass.Demand
import SdkGen.Proofs.Pass.History
import SdkGen.Proofs.Pass.Mirror
import SdkGen.Proofs.Pass.Names
import SdkGen.Proofs.Pass.Parallel
import SdkGen.Proofs.Pass.Refusals
import SdkGen.Proofs.Pass.Run
import SdkGen.Proofs.Pass.Serves
import SdkGen.Proofs.Target.Constructors
import SdkGen.Proofs.Target.Demands
import SdkGen.Proofs.Target.Documentation
import SdkGen.Proofs.Target.InterfaceLines
import SdkGen.Proofs.Target.Layers
import SdkGen.Proofs.Target.MethodTexts
import SdkGen.Proofs.Target.Mirror
import SdkGen.Proofs.Target.Passing
import SdkGen.Proofs.Target.PathLiterals
import SdkGen.Proofs.Target.RequestMembers
import SdkGen.Proofs.Target.Texts
import SdkGen.Proofs.Text.Comment
import SdkGen.Proofs.Text.Identifier
import SdkGen.Proofs.Text.Marks
import SdkGen.Proofs.Text.Uncomment
import SdkGen.Proofs.Tree
import SdkGen.Proofs.Tree.Files
import SdkGen.Proofs.Tree.Paths
import SdkGen.Proofs.Tree.Places
import SdkGen.Report
import SdkGen.Target.Basic
import SdkGen.Target.Declare
import SdkGen.Target.Python
import SdkGen.Target.Text
import SdkGen.Target.TypeScript
import SdkGen.Text.Balance
import SdkGen.Text.Base64
import SdkGen.Text.Blank
import SdkGen.Text.Case
import SdkGen.Text.CharSet
import SdkGen.Text.CharacterName
import SdkGen.Text.Comment
import SdkGen.Text.Compose
import SdkGen.Text.Decompose
import SdkGen.Text.Encoding
import SdkGen.Text.Encoding.EastAsian
import SdkGen.Text.Encoding.Escaped
import SdkGen.Text.Encoding.Label
import SdkGen.Text.Encoding.Page
import SdkGen.Text.Encoding.Punycode
import SdkGen.Text.Encoding.Sheet
import SdkGen.Text.Encoding.Shifted
import SdkGen.Text.Encoding.Stray
import SdkGen.Text.Encoding.Switching
import SdkGen.Text.Encoding.Words
import SdkGen.Text.Halves
import SdkGen.Text.Identifier
import SdkGen.Text.Name
import SdkGen.Text.Numeral
import SdkGen.Text.Quoted
import SdkGen.Text.Table.AncientNames
import SdkGen.Text.Table.Case
import SdkGen.Text.Table.Classes
import SdkGen.Text.Table.CodePages
import SdkGen.Text.Table.Composition
import SdkGen.Text.Table.Decomposition
import SdkGen.Text.Table.Digits
import SdkGen.Text.Table.Emoji
import SdkGen.Text.Table.FormNames
import SdkGen.Text.Table.Hanja
import SdkGen.Text.Table.Hanzi
import SdkGen.Text.Table.Kanji
import SdkGen.Text.Table.Labels
import SdkGen.Text.Table.LetterNames
import SdkGen.Text.Table.NameWords
import SdkGen.Text.Table.Names
import SdkGen.Text.Table.NotationNames
import SdkGen.Text.Table.SignNames
import SdkGen.Text.Table.TraditionalHanzi
import SdkGen.Text.Table.Width
import SdkGen.Text.Width
import SdkGen.Text.Word
import SdkGen.Toml.Document
import SdkGen.Toml.Lexeme
import SdkGen.Tree
import SdkGen.Value
import SdkGen.Value.Shown
import SdkGen.Yaml.Construct
import SdkGen.Yaml.Document
import SdkGen.Yaml.Lexer.Basic
import SdkGen.Yaml.Lexer.Block
import SdkGen.Yaml.Lexer.Mark
import SdkGen.Yaml.Lexer.Plain
import SdkGen.Yaml.Lexer.Quoted
import SdkGen.Yaml.Lexer.Run
import SdkGen.Yaml.MemberValues
import SdkGen.Yaml.Members
import SdkGen.Yaml.Named
import SdkGen.Yaml.Node
import SdkGen.Yaml.Scalar
import SdkGen.Yaml.Stamp
import SdkGen.Yaml.Tag
import SdkGen.Yaml.Token
