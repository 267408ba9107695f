import Twag.Framework.Multimap
import Twag.Framework.Scan
import Twag.Framework.Size
import Twag.Framework.Past
import Twag.Framework.Walk
import Twag.Framework.Tlv
import Twag.Framework.Options
import Twag.Framework.Octets
import Twag.Framework.Thread
import Twag.Framework.BigEndian
import Twag.Framework.InsertBack
import Twag.Framework.Apart
import Twag.Framework.Fallible
import Twag.Impl.Basic
import Twag.Impl.UeSession
import Twag.Impl.SessionManager
import Twag.Impl.EventLoop
import Twag.Impl.Run
import Twag.Impl.Effects
import Twag.Impl.Sta
import Twag.Impl.S2a
import Twag.Impl.Radius
import Twag.Impl.Snaptr
import Twag.Impl.Core
import Twag.Impl.Config
import Twag.Impl.Gtpv2c
import Twag.Impl.Receive.Datagram
import Twag.Impl.Receive.Sta
import Twag.Impl.Receive.S2a
import Twag.Impl.Receive.Dhcp
import Twag.Impl.Receive.Radius
import Twag.Impl.Receive.Accounting
import Twag.Impl.Receive.Extent
import Twag.Impl.Send.Gtpv2c
import Twag.Impl.Gateway
import Twag.Impl.Threads
import Twag.Impl.Diameter
import Twag.Impl.Diameter.Node
import Twag.Impl.Diameter.Sta
import Twag.Impl.Diameter.SentRequests
import Twag.Impl.Descriptors
import Twag.Impl.Diameter.PeerMachine
import Twag.Impl.Diameter.Rules
import Twag.Spec.Ue
import Twag.Spec.Kernel
import Twag.Spec.PeerMachine
import Twag.Spec.Trace
import Twag.Proof.SessionManager.Store
import Twag.Proof.SessionManager.Teid
import Twag.Proof.SessionManager.Allocation
import Twag.Proof.EventLoop.Run
import Twag.Proof.Core.Refine
import Twag.Proof.Core.React
import Twag.Proof.Core.Handshake
import Twag.Proof.Core.History
import Twag.Proof.Core.Correlation
import Twag.Proof.Core.Incarnation
import Twag.Proof.Core.Orphan
import Twag.Proof.Core.Admission
import Twag.Proof.Core.Timeout
import Twag.Proof.Core.Verdict
import Twag.Proof.Core.Life
import Twag.Proof.Core.Reauth
import Twag.Proof.Core.Race
import Twag.Proof.Core.Kernel
import Twag.Proof.Core.Forwarding
import Twag.Proof.Core.Bystander
import Twag.Proof.Core.Independence
import Twag.Proof.Core.Statistics
import Twag.Proof.Core.Config
import Twag.Proof.Core.Attach
import Twag.Proof.Core.Trace
import Twag.Proof.Receive.Gtpv2c
import Twag.Proof.Receive.Mac
import Twag.Proof.Receive.Radius
import Twag.Proof.Receive.Accounting
import Twag.Proof.Receive.Ends
import Twag.Proof.Receive.Extent
import Twag.Proof.Receive.Snaptr
import Twag.Proof.Receive.Options
import Twag.Proof.Receive.Nai
import Twag.Proof.Send.Radius
import Twag.Proof.Send.Gtpv2c
import Twag.Proof.Send.Apn
import Twag.Proof.Send.Profile
import Twag.Proof.Send.Imsi
import Twag.Proof.Gateway.Arrivals
import Twag.Proof.Gateway.Authentication
import Twag.Proof.Gateway.Rejection
import Twag.Proof.Gateway.Dhcp
import Twag.Proof.Gateway.Identity
import Twag.Proof.Gateway.Endpoint
import Twag.Proof.Gateway.Carriers
import Twag.Proof.Gateway.Release
import Twag.Proof.Gateway.Bcd
import Twag.Proof.Gateway.Failed
import Twag.Proof.Threads.Interleaving
import Twag.Proof.Threads.Descriptors
import Twag.Proof.Threads.Serial
import Twag.Proof.Diameter.Exchange
import Twag.Proof.Diameter.SentRequests
import Twag.Proof.Diameter.PeerFunctions
import Twag.Proof.Diameter.PeerMachine
import Twag.Proof.Diameter.PeerService
import Twag.Proof.Diameter.PeerRequests
import Twag.Proof.Diameter.RoundTrip
import Twag.Proof.Diameter.Rules
