import AlertRelay.Ordered
import AlertRelay.Binary64
import AlertRelay.Text.Quoted
import AlertRelay.Text.Utf8
import AlertRelay.Text.Base64
import AlertRelay.Value
import AlertRelay.Json.Printer
import AlertRelay.Json.Reader
import AlertRelay.Validation
import AlertRelay.Validation.Check
import AlertRelay.Alert
import AlertRelay.Settings
import AlertRelay.Rule
import AlertRelay.Level
import AlertRelay.Sink
import AlertRelay.Live.Session
import AlertRelay.Courier.Session
import AlertRelay.Relay.Session
import AlertRelay.Yaml.Lexeme
import AlertRelay.Yaml.Tokens
import AlertRelay.Yaml.Tag
import AlertRelay.Yaml.Graph
import AlertRelay.Yaml.Document
import AlertRelay.Cache.Session
import AlertRelay.Log.Session
import AlertRelay.SelfTest
import AlertRelay.Main
import AlertRelay.Proofs.Exchange
import AlertRelay.Proofs.Pairing
import AlertRelay.Proofs.Names
import AlertRelay.Proofs.Handling
import AlertRelay.Proofs.Posts
import AlertRelay.Proofs.Agreement
import AlertRelay.Proofs.Secrecy
import AlertRelay.Proofs.Sessions
import AlertRelay.Proofs.Snapshots
import AlertRelay.Proofs.Descriptions
import AlertRelay.Proofs.Destinations
import AlertRelay.Proofs.Paths
import AlertRelay.Proofs.Upkeep
import AlertRelay.Proofs.Retention
import AlertRelay.Proofs.Escapes
import AlertRelay.Proofs.Bodies
import AlertRelay.Proofs.Rooms
import AlertRelay.Proofs.Discretion
import AlertRelay.Proofs.Renewals
import AlertRelay.Proofs.Endings
import AlertRelay.Proofs.Trials
import AlertRelay.Proofs.Isolation
import AlertRelay.Proofs.Reports
import AlertRelay.Proofs.Building
import AlertRelay.Proofs.Lineage
import AlertRelay.Proofs.Cleanup
import AlertRelay.Proofs.Thresholds
import AlertRelay.Proofs.Defaults
import AlertRelay.Proofs.Restating
import AlertRelay.Proofs.Spellings
import AlertRelay.Proofs.Items
import AlertRelay.Proofs.Walks
import AlertRelay.Proofs.Loading
