import Garage.Export
import Garage.Layout.Text
import Garage.Main
import Garage.Proofs.Cancellation
import Garage.Proofs.Competition
import Garage.Proofs.Course
import Garage.Proofs.Independence
import Garage.Proofs.Occupancy
import Garage.Proofs.Rollback
import Garage.Proofs.Savepoint
import Garage.Proofs.Outcomes
import Garage.Proofs.Exhaustion
import Garage.Proofs.Clients
import Garage.Proofs.Building
import Garage.Proofs.Growth
import Garage.Proofs.Journal
import Garage.Proofs.Json.Cutting
import Garage.Proofs.Spelling
import Garage.Proofs.Json.RoundTrip
import Garage.Proofs.Yaml.Scanning
import Garage.Proofs.Yaml.Words
import Garage.Proofs.Yaml.Taking
import Garage.Proofs.Yaml.Nodes
import Garage.Proofs.Yaml.Block
import Garage.Proofs.Yaml.Flow
import Garage.Proofs.LayoutFile
import Garage.Proofs.Summary
import Garage.Proofs.Demonstration
import Garage.Proofs.Policy
import Garage.Proofs.Undoing
import Garage.Proofs.Neighbours
import Garage.Proofs.Utilization
import Garage.Proofs.Footprint
import Garage.Proofs.Draining
import Garage.Proofs.Json.Requests
import Garage.Proofs.Json.Respelling
