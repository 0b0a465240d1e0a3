import FormatHost.Guest.Description
import FormatHost.Log.Template
import FormatHost.Main
import FormatHost.Proofs.Guest.Sequence
import FormatHost.Proofs.Pool.Containment
import FormatHost.Proofs.Pool.Overrides
import FormatHost.Proofs.Config.Spelling
import FormatHost.Proofs.Config.RoundTrip
import FormatHost.Proofs.Guest.Level
import FormatHost.Proofs.Guest.Solitary
import FormatHost.Proofs.Guest.Transfer
import FormatHost.Proofs.Guest.Relay
import FormatHost.Proofs.Host.RoundTrip
import FormatHost.Proofs.Host.Results
import FormatHost.Proofs.Pool.Room
import FormatHost.Proofs.Pool.Crashes
import FormatHost.Proofs.Config.Overlong
import FormatHost.Proofs.Guest.Delegate
import FormatHost.Proofs.Guest.Scripted
import FormatHost.Proofs.Pool.Abreast
import FormatHost.Proofs.Pool.Agreement
import FormatHost.Proofs.Pool.Aside
import FormatHost.Proofs.Pool.Delegation
import FormatHost.Proofs.Host.Idle
import FormatHost.Proofs.Pool.Registration
import FormatHost.Proofs.Pool.Readiness
import FormatHost.Proofs.CommandLine.Recheck
import FormatHost.Proofs.Host.Bounds
import FormatHost.Proofs.Guest.Exact
import FormatHost.Proofs.CommandLine.Outcome
import FormatHost.Proofs.Config.Lenient
import FormatHost.Proofs.Guest.Rounds
import FormatHost.Proofs.Guest.Held
import FormatHost.Proofs.Guest.Binding
import FormatHost.Proofs.Log.Pruning
