import BrokerWiring.Listener.AckBatch
import BrokerWiring.Component.Index
import BrokerWiring.Main
import BrokerWiring.Proofs.Outcome
import BrokerWiring.Proofs.Registry.Growth
import BrokerWiring.Proofs.Wiring.Roster
import BrokerWiring.Proofs.Wiring.Course
import BrokerWiring.Proofs.Wiring.Composition
import BrokerWiring.Proofs.Wiring.Sharing
import BrokerWiring.Proofs.Settings.Binding
import BrokerWiring.Proofs.Wiring.Calls
import BrokerWiring.Proofs.Wiring.Faults
import BrokerWiring.Proofs.Wiring.Interleaving
import BrokerWiring.Proofs.Text.LowerCase
import BrokerWiring.Proofs.Property.Key
import BrokerWiring.Proofs.Property.Set
import BrokerWiring.Proofs.Text.Utf8
import BrokerWiring.Proofs.Property.Log
import BrokerWiring.Proofs.Text.Trimming
import BrokerWiring.Proofs.Text.Slices
import BrokerWiring.Proofs.Property.Entries
import BrokerWiring.Proofs.Source.Layers
import BrokerWiring.Proofs.Settings.Forms
import BrokerWiring.Proofs.Settings.Rendering
import BrokerWiring.Proofs.Listener.Settlement
import BrokerWiring.Proofs.Property.Segments
import BrokerWiring.Proofs.Property.Relaxation
import BrokerWiring.Proofs.Property.Selection
import BrokerWiring.Proofs.Property.Document
import BrokerWiring.Proofs.Json.Leaves
import BrokerWiring.Proofs.Property.TextForms
import BrokerWiring.Proofs.Text.Decoding
import BrokerWiring.Proofs.Text.WellFormed
import BrokerWiring.Proofs.Message.TextConverter
import BrokerWiring.Proofs.Transport.Establishment
import BrokerWiring.Proofs.Property.Environment
import BrokerWiring.Proofs.Listener.Containers
import BrokerWiring.Proofs.Wiring.Endpoints
import BrokerWiring.Proofs.Settings.Secrecy
import BrokerWiring.Proofs.Wiring.Secrecy
import BrokerWiring.Proofs.Property.VariableNames
import BrokerWiring.Proofs.Settings.Grammar
import BrokerWiring.Proofs.Settings.Location
import BrokerWiring.Proofs.Json.Ways
import BrokerWiring.Proofs.Source.WrittenOrder
import BrokerWiring.Proofs.Listener.Window
import BrokerWiring.Proofs.Listener.Consumption
import BrokerWiring.Proofs.Property.Flattening
import BrokerWiring.Proofs.Settings.KnownKeys
import BrokerWiring.Proofs.Listener.Registration
import BrokerWiring.Proofs.Wiring.HandOver
import BrokerWiring.Proofs.Listener.Offers
import BrokerWiring.Proofs.Listener.Launch
import BrokerWiring.Proofs.Registry.Index
import BrokerWiring.Proofs.Json.Scalars
import BrokerWiring.Proofs.Json.RoundTrip
import BrokerWiring.Proofs.Wiring.Clashes
