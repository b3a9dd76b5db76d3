import Locator.Main
import Locator.Proofs.CommandLine.DefaultCommand
import Locator.Proofs.CommandLine.Verbosity
import Locator.Proofs.EnvironmentFile.Assignments
import Locator.Proofs.EnvironmentFile.Frame
import Locator.Proofs.EnvironmentFile.Nearest
import Locator.Proofs.Isolation
import Locator.Proofs.Path.Bundled
import Locator.Proofs.Path.Components
import Locator.Proofs.Program.AbsolutePath
import Locator.Proofs.Program.ExitCode
import Locator.Proofs.Program.Gaps
import Locator.Proofs.Program.Observation
import Locator.Proofs.Program.Precedence
import Locator.Proofs.Program.Stdout
import Locator.Proofs.Program.Trust
import Locator.Proofs.Resolver.Existence
import Locator.Proofs.Resolver.FirstHit
import Locator.Proofs.Resolver.Narration
import Locator.Proofs.Resolver.Simulation
import Locator.Proofs.Search.Pinned
import Locator.Proofs.Session.Ledger
import Locator.Proofs.Settings.RoundTrip
import Locator.Proofs.Text.Utf8
import Locator.Session
import Locator.Strategy.Reader
import Locator.World
import Locator.Proofs.Program.DefaultCommand
import Locator.Proofs.CommandLine.Occurrences
import Locator.Proofs.Program.Sinks
import Locator.Proofs.Report.Agreement
import Locator.Proofs.CommandLine.Arrangement
import Locator.Proofs.Json.Lists
import Locator.Proofs.Settings.Positional
import Locator.Proofs.Strategy.Readers
import Locator.Proofs.Json.Places
import Locator.Proofs.Settings.Places
import Locator.Proofs.Report.ReadBack
import Locator.Proofs.Text.Quoted
