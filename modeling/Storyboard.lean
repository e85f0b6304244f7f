import Storyboard.Sorting
import Storyboard.Text.Blank
import Storyboard.Text.DecimalDigit
import Storyboard.Text.Lines
import Storyboard.Text.Printable
import Storyboard.Text.Quoted
import Storyboard.Text.Radix
import Storyboard.Text.Utf8
import Storyboard.Number.Binary64
import Storyboard.Number.Numeral
import Storyboard.Number.Shortest
import Storyboard.Markup.Node
import Storyboard.Markup.Site
import Storyboard.Markup.Lookup
import Storyboard.Markup.Writing
import Storyboard.Markup.Fault
import Storyboard.Markup.Log
import Storyboard.Markup.Character
import Storyboard.Markup.Source
import Storyboard.Markup.Reading
import Storyboard.Markup.Reference
import Storyboard.Markup.Namespace
import Storyboard.Markup.Declaration
import Storyboard.Markup.Value
import Storyboard.Markup.Aside
import Storyboard.Markup.Definition
import Storyboard.Markup.Doctype
import Storyboard.Markup.StartTag
import Storyboard.Markup.Content
import Storyboard.Markup.XmlDeclaration
import Storyboard.Markup.Coding
import Storyboard.Markup.Coding.Unicode
import Storyboard.Markup.Coding.Alphabets
import Storyboard.Markup.Coding.Japanese
import Storyboard.Markup.Coding.Korean
import Storyboard.Markup.Coding.Simplified
import Storyboard.Markup.Coding.Traditional
import Storyboard.Markup.Coding.Planes
import Storyboard.Markup.Encoding
import Storyboard.Markup.Document
import Storyboard.Layout.Component
import Storyboard.Layout.Modifier
import Storyboard.Layout.Extraction
import Storyboard.Layout.Ownership
import Storyboard.Conversion.Settings
import Storyboard.Conversion.Failure
import Storyboard.Conversion.Notice
import Storyboard.Conversion.Logged
import Storyboard.Navigation.Edge
import Storyboard.Navigation.Flow
import Storyboard.Navigation.TabBar
import Storyboard.Swift.Expression
import Storyboard.Swift.Spacing
import Storyboard.Swift.ViewFile
import Storyboard.Swift.ViewName
import Storyboard.Conversion.Screen
import Storyboard.Conversion.Flat
import Storyboard.Conversion.Flow
import Storyboard.Conversion.Tabs
import Storyboard.Conversion.Modes
import Storyboard.Compression.PrefixCode
import Storyboard.Compression.Inflate
import Storyboard.Compression.Gzip
import Storyboard.Disk.Address
import Storyboard.Disk.Path
import Storyboard.Disk.Tree
import Storyboard.Run.Host
import Storyboard.Run.FileConversion
import Storyboard.Run.Options
import Storyboard.Run.CommandLine
import Storyboard.Run.Session
import Storyboard.Main
import Storyboard.Proofs.Conversion.ClosedFiles
import Storyboard.Proofs.Layout.Screens
import Storyboard.Proofs.Layout.Drawing
import Storyboard.Proofs.Conversion.QuotedTexts
import Storyboard.Proofs.Layout.Repetition
import Storyboard.Proofs.Layout.Multiplicity
import Storyboard.Proofs.Text.Joining
import Storyboard.Proofs.Swift.Printing
import Storyboard.Proofs.Navigation.Reachability
import Storyboard.Proofs.Number.Finite
import Storyboard.Proofs.Swift.Writable
import Storyboard.Proofs.Markup.Separators
import Storyboard.Proofs.Markup.Readable.Document
import Storyboard.Proofs.Layout.Extracted
import Storyboard.Proofs.Conversion.Totality
import Storyboard.Proofs.Conversion.PrintedFiles
import Storyboard.Proofs.Disk.Changes
import Storyboard.Proofs.Disk.Following
import Storyboard.Proofs.Disk.Making
import Storyboard.Proofs.Run.Effects
import Storyboard.Proofs.Run.GeneratedFiles
import Storyboard.Proofs.Run.Directories
import Storyboard.Proofs.Run.OutputFolder
import Storyboard.Proofs.Run.ExistingFiles
import Storyboard.Proofs.Run.FailedWrites
import Storyboard.Proofs.Run.StoredFiles
import Storyboard.Proofs.Run.ExitCodes
import Storyboard.Proofs.Number.Order
import Storyboard.Proofs.Layout.Numbers
import Storyboard.Proofs.Layout.Listing
import Storyboard.Proofs.Layout.Placeholders
import Storyboard.Proofs.Conversion.CapturedNames
import Storyboard.Proofs.Text.Brackets
import Storyboard.Proofs.Conversion.BracketedFiles
import Storyboard.Proofs.Swift.Columns
import Storyboard.Proofs.Swift.FirstFault
import Storyboard.Proofs.Navigation.Determined
import Storyboard.Proofs.Navigation.Resolution
import Storyboard.Proofs.Navigation.TabListing
import Storyboard.Proofs.Conversion.FlatScreens
import Storyboard.Proofs.Markup.WithoutAsides
import Storyboard.Proofs.Swift.ModifierLines
import Storyboard.Proofs.Layout.Asides
import Storyboard.Proofs.Conversion.Asides
import Storyboard.Proofs.Number.Value
import Storyboard.Proofs.Number.Rounding
import Storyboard.Proofs.Number.Spelling
import Storyboard.Proofs.Number.Reading
import Storyboard.Proofs.Number.FloatLiteral
import Storyboard.Proofs.Swift.BoundedPadding
import Storyboard.Proofs.Swift.NumberLiterals
import Storyboard.Proofs.Text.Utf8
import Storyboard.Proofs.Markup.Margins.Settled
import Storyboard.Proofs.Markup.Margins.Pairs
import Storyboard.Proofs.Markup.Margins.Steps
import Storyboard.Proofs.Markup.Margins.Asides
import Storyboard.Proofs.Markup.Margins.Values
import Storyboard.Proofs.Markup.Margins.Tags
import Storyboard.Proofs.Markup.Margins.Content
import Storyboard.Proofs.Markup.Margins.Definitions
import Storyboard.Proofs.Markup.Margins.Doctype
import Storyboard.Proofs.Markup.Margins.Document
import Storyboard.Proofs.Markup.Margins.DeclaredEncodings
import Storyboard.Proofs.Markup.Margins.Sources
import Storyboard.Proofs.Run.TextsAndFiles
import Storyboard.Proofs.Text.Indenting
import Storyboard.Proofs.Swift.NameSearch
import Storyboard.Proofs.Markup.WaysDown
