import WinZig.Golden.Pool
import WinZig.Golden.Suite
import WinZig.Main
import WinZig.Proofs.Parsing.Grammar
import WinZig.Proofs.Parsing.Reading
import WinZig.Proofs.Parsing.Steps
import WinZig.Proofs.Parsing.Soundness.Expression
import WinZig.Proofs.Parsing.Soundness.Statement
import WinZig.Proofs.Parsing.Soundness.Program
import WinZig.Proofs.Parsing.Accepting
import WinZig.Proofs.Parsing.Completeness.Expression
import WinZig.Proofs.Parsing.Completeness.Statement
import WinZig.Proofs.Parsing.Completeness.Program
import WinZig.Proofs.Parsing.Comparing.Steps
import WinZig.Proofs.Parsing.Comparing.Program
import WinZig.Proofs.Parsing.Wording
import WinZig.Proofs.Parsing.Warnings
import WinZig.Proofs.Parsing.Exactness
import WinZig.Proofs.Parsing.Derivations
import WinZig.Proofs.Parsing.Shape
import WinZig.Proofs.Scanning
import WinZig.Proofs.Typing.Expressions
import WinZig.Proofs.Typing.Statements
import WinZig.Proofs.Typing.Tags
import WinZig.Proofs.Typing.Declarations
import WinZig.Proofs.Typing.Programs
import WinZig.Proofs.Typing.Exactness
import WinZig.Proofs.Rendering.Layout
import WinZig.Proofs.Rendering.Statements
import WinZig.Proofs.Rendering.Programs
import WinZig.Proofs.Scanning.Tiling
import WinZig.Proofs.Scanning.Positions
import WinZig.Proofs.Scanning.Rules
import WinZig.Proofs.Scanning.Respacing
import WinZig.Proofs.Typing.Resolution
import WinZig.Proofs.Parsing.Moving
import WinZig.Proofs.Typing.Moving
import WinZig.Proofs.Compiling.Attribution
import WinZig.Proofs.Compiling.Arguments
import WinZig.Proofs.Compiling.Reports
import WinZig.Proofs.Renaming
import WinZig.Proofs.Typing.Renaming
import WinZig.Proofs.Typing.Stability
import WinZig.Proofs.Typing.Comparisons
import WinZig.Proofs.Typing.Frames
import WinZig.Proofs.Typing.Causes
import WinZig.Proofs.Parsing.Anchors
import WinZig.Proofs.Typing.Anchors
import WinZig.Proofs.Compiling.Underlining
import WinZig.Proofs.Placement
import WinZig.Proofs.Compiling.Outputs
import WinZig.Proofs.Compiling.Separation
import WinZig.Proofs.Compiling.Warnings
import WinZig.Proofs.Compiling.Messages
import WinZig.Proofs.Golden.Recognition
import WinZig.Proofs.Scanning.Composition
import WinZig.Proofs.Rendering.Precedence
import WinZig.Proofs.Golden.Scheduling
import WinZig.Proofs.Settings.Switches
import WinZig.Proofs.Settings.Tables
import WinZig.Proofs.Settings.Layers
import WinZig.Proofs.Parsing.Features
import WinZig.Proofs.Parsing.Accounting
import WinZig.Proofs.Typing.Traversal
import WinZig.Proofs.Parsing.Integers
import WinZig.Proofs.Settings.Sequences
import WinZig.Proofs.CommandLine.Spellings
import WinZig.Proofs.CommandLine.RoundTrip
import WinZig.Proofs.Settings.Contradictions
import WinZig.Proofs.Texts
import WinZig.Proofs.Golden.Relocation
import WinZig.Proofs.Golden.Locations
import WinZig.Proofs.Golden.Filtering
import WinZig.Proofs.Inspection
import WinZig.Proofs.Compiling.Returns
import WinZig.Proofs.Settings.Loading
import WinZig.Proofs.CommandLine.Journal
