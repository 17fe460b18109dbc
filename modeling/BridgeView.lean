import BridgeView.Cache.Handle
import BridgeView.Conversation
import BridgeView.Draft.Composition
import BridgeView.Main
import BridgeView.Multicast.Json
import BridgeView.Proofs.Address.Group
import BridgeView.Proofs.Attribute.Tree
import BridgeView.Proofs.Cache.Deletion
import BridgeView.Proofs.Cache.OrderedMap
import BridgeView.Proofs.Comparison
import BridgeView.Proofs.Compatibility
import BridgeView.Proofs.ControlMessages
import BridgeView.Proofs.Draft.Edits
import BridgeView.Proofs.Dump.Interruption
import BridgeView.Proofs.Dump.Packing
import BridgeView.Proofs.Framing
import BridgeView.Proofs.KeyedList
import BridgeView.Proofs.Manager.Convergence
import BridgeView.Proofs.Manager.Draining
import BridgeView.Proofs.Manager.Membership
import BridgeView.Proofs.Manager.Stale
import BridgeView.Proofs.MergedAttributes
import BridgeView.Proofs.Multicast.GroupMap
import BridgeView.Proofs.Multicast.Pieces
import BridgeView.Proofs.Multicast.Request
import BridgeView.Proofs.Multicast.RoundTrip
import BridgeView.Proofs.Readers
import BridgeView.Proofs.Registry
import BridgeView.Proofs.Retry
import BridgeView.Proofs.Socket.Numbering
import BridgeView.Proofs.UniqueParts
import BridgeView.Proofs.Vlan.Coverage
import BridgeView.Proofs.Vlan.FirstEntry
import BridgeView.Proofs.Vlan.FlagFilter
import BridgeView.Proofs.Vlan.Order
import BridgeView.Proofs.Vlan.Request
import BridgeView.Proofs.Vlan.RoundTrip
