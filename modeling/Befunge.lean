import Befunge.Main
import Befunge.Screen.CommandLine
import Befunge.Proofs.Image.Resume
import Befunge.Proofs.Machine.Surface
import Befunge.Proofs.Machine.Zeros
import Befunge.Proofs.Session.Budget
import Befunge.Proofs.Session.Observation
import Befunge.Proofs.Session.Tracing
import Befunge.Proofs.Session.Restart
import Befunge.Proofs.Console.Loop
import Befunge.Proofs.Launch.Program
import Befunge.Proofs.Session.Attribution
import Befunge.Proofs.Session.Halting
import Befunge.Proofs.MessagePack.Truncation
import Befunge.Proofs.Console.Truncation
import Befunge.Proofs.Machine.Turns
import Befunge.Proofs.Machine.Streaming
import Befunge.Proofs.Machine.Memory
import Befunge.Proofs.Machine.Torus
import Befunge.Proofs.Machine.Path
import Befunge.Proofs.Source.Layout
import Befunge.Proofs.Source.Utf8
import Befunge.Proofs.Machine.Arithmetic
import Befunge.Proofs.Machine.Literal
import Befunge.Proofs.Text.Numeral
import Befunge.Proofs.Command.Grammar
import Befunge.Proofs.Trace.Echo
import Befunge.Proofs.Json.Grammar
import Befunge.Proofs.Json.Reader
import Befunge.Proofs.Trace.Json
import Befunge.Proofs.Console.Output
import Befunge.Proofs.Launch.Options
import Befunge.Proofs.Trace.Retained
import Befunge.Proofs.Screen.Terminal
import Befunge.Proofs.Text.Runs
import Befunge.Proofs.Screen.CommandLine
import Befunge.Proofs.Screen.GridView
import Befunge.Proofs.History.Stack
