import TileServer.Main
import TileServer.Endpoint.Activation
import TileServer.Session.Exchange
import TileServer.Proofs.Session.Turns
import TileServer.Proofs.Layout.Mirror
import TileServer.Proofs.Talk.Replies
import TileServer.Proofs.Server.Identity
import TileServer.Proofs.Server.Backlog
import TileServer.Proofs.Server.Draining
import TileServer.Proofs.Server.Codes
import TileServer.Proofs.Reply.Payloads
import TileServer.Proofs.Config.Sections
import TileServer.Proofs.Endpoint.Sockets
import TileServer.Proofs.Endpoint.Binding
import TileServer.Proofs.Endpoint.Activation
import TileServer.Proofs.Layout.Numbering
import TileServer.Proofs.Layout.Marks
import TileServer.Proofs.Layout.Names
import TileServer.Proofs.Server.Bars
import TileServer.Proofs.Layout.Placement
import TileServer.Proofs.CommandLine.Status
import TileServer.Proofs.Layout.WellNamed
import TileServer.Proofs.Server.Broadcast
import TileServer.Proofs.Server.Steps
import TileServer.Proofs.Layout.Moves
import TileServer.Proofs.Server.Renders
import TileServer.Proofs.Server.Subscription
