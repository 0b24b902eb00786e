import GatherScatter.Text.Blank
import GatherScatter.Text.Escape
import GatherScatter.Text.Letters
import GatherScatter.Text.Regex
import GatherScatter.Text.Unsigned
import GatherScatter.Word
import GatherScatter.Allocator
import GatherScatter.Fault
import GatherScatter.Pattern.Fault
import GatherScatter.Pattern.Basic
import GatherScatter.Pattern.Generator
import GatherScatter.Pattern.Notation
import GatherScatter.Selector
import GatherScatter.Capabilities
import GatherScatter.Coordinator
import GatherScatter.Timer
import GatherScatter.Decimal.Binary64
import GatherScatter.Decimal.Fixed
import GatherScatter.Decimal.Shortest
import GatherScatter.Decimal.Nearest
import GatherScatter.Report
import GatherScatter.Settings.Basic
import GatherScatter.Settings.Env
import GatherScatter.Settings.Toml
import GatherScatter.Random.ChaCha
import GatherScatter.Random.Seed
import GatherScatter.Buffers
import GatherScatter.Engine
import GatherScatter.Journal
import GatherScatter.Bench
import GatherScatter.Lifecycle
import GatherScatter.Cli.Filter
import GatherScatter.Cli.Options
import GatherScatter.Cli.Program
import GatherScatter.Cli.Console
import GatherScatter.Main
import GatherScatter.Proofs.Repetition
import GatherScatter.Proofs.Compile
import GatherScatter.Proofs.Stores
import GatherScatter.Proofs.Lifecycle
import GatherScatter.Proofs.Contents
import GatherScatter.Proofs.Rendering
import GatherScatter.Proofs.Outcomes
import GatherScatter.Proofs.Validation
import GatherScatter.Proofs.Restore
import GatherScatter.Proofs.StrideOne
import GatherScatter.Proofs.Resolution
import GatherScatter.Proofs.ExitStatus
import GatherScatter.Proofs.Duplicates
import GatherScatter.Proofs.Uniform
import GatherScatter.Proofs.ExplicitList
import GatherScatter.Proofs.Reorder
import GatherScatter.Proofs.ByteTotals
import GatherScatter.Proofs.Construction
import GatherScatter.Proofs.WordDoubles
import GatherScatter.Proofs.KeyStream
import GatherScatter.Proofs.Overrides
import GatherScatter.Proofs.Names
