import Watchtower.Text.Width
import Watchtower.Naming
import Watchtower.Reading
import Watchtower.Cron
import Watchtower.Source.Reader
import Watchtower.Event.Codec
import Watchtower.Blueprint.Form
import Watchtower.Blueprint.Path
import Watchtower.Blueprint.Edit
import Watchtower.Report
import Watchtower.Rendering.Files
import Watchtower.Live.Bench
import Watchtower.Live.Form
import Watchtower.Live.Script
import Watchtower.Linking.System
import Watchtower.CommandLine.Run
import Watchtower.Main
import Watchtower.Proofs.Predicate.Text
import Watchtower.Proofs.Rendering.Modules
import Watchtower.Proofs.Linking.Changes
import Watchtower.Proofs.Isolation
import Watchtower.Proofs.Linking.Mirror
import Watchtower.Proofs.Linking.Jobs
import Watchtower.Proofs.Linking.Access
import Watchtower.Proofs.Live.Updates
import Watchtower.Proofs.Linking.Steering
import Watchtower.Proofs.Live.Publishing
import Watchtower.Proofs.Live.Ownership
import Watchtower.Proofs.Linking.Hearing
import Watchtower.Proofs.Live.Sessions
import Watchtower.Proofs.Live.Periodic
import Watchtower.Proofs.Rendering.Members
import Watchtower.Proofs.Linking.Provision
import Watchtower.Proofs.Source.Reading
import Watchtower.Proofs.Manifest.Reading
import Watchtower.Proofs.Accounting
import Watchtower.Proofs.Order.System
import Watchtower.Proofs.Predicate.Shape
import Watchtower.Proofs.Rendering.Imports
import Watchtower.Proofs.Predicate.Thresholds
import Watchtower.Proofs.Route.Reading
import Watchtower.Proofs.Linking.Retraction
import Watchtower.Proofs.Linking.Registration
import Watchtower.Proofs.Predicate.Percentage
import Watchtower.Proofs.Linking.Queues
import Watchtower.Proofs.Cron
import Watchtower.Proofs.Reading.Encoding
import Watchtower.Proofs.Reading.Change
