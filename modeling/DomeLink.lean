import DomeLink.Command.Json
import DomeLink.Main
import DomeLink.Proofs.Session.OneShots
import DomeLink.Proofs.Connection.Timers
import DomeLink.Proofs.Connection.Link
import DomeLink.Proofs.Session.Rejection
import DomeLink.Proofs.Command.Seed
import DomeLink.Proofs.Session.FirstCommand
import DomeLink.Proofs.Session.Polls
import DomeLink.Proofs.Connection.Ticks
import DomeLink.Proofs.Connection.Cadence
import DomeLink.Proofs.Command.AtRest
import DomeLink.Proofs.Connection.Undisturbed
import DomeLink.Proofs.Session.Edges
import DomeLink.Proofs.Session.Covers
import DomeLink.Proofs.Session.LightOut
import DomeLink.Proofs.Status.Normal
import DomeLink.Proofs.Languages
import DomeLink.Proofs.Status.Grammar
import DomeLink.Proofs.Command.Normal
import DomeLink.Proofs.Command.Grammar
import DomeLink.Proofs.Session.Respelled
import DomeLink.Proofs.Session.Changes
import DomeLink.Proofs.Wire.CheckField
import DomeLink.Proofs.Connection.Ended
import DomeLink.Proofs.Connection.Rounds
import DomeLink.Proofs.Machine.Untrapped
import DomeLink.Proofs.Capture.Kinds
import DomeLink.Proofs.Command.Mechanisms
import DomeLink.Proofs.Capture.Csv
import DomeLink.Proofs.Capture.Table
import DomeLink.Proofs.Line
import DomeLink.Proofs.Switches
import DomeLink.Proofs.Json.RoundTrip
import DomeLink.Proofs.ConfigFile
