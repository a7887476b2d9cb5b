import FastSocket.Packet.SendAll
import FastSocket.Xdp.RawRings
import FastSocket.Xdp.ReceiveRefinement
import FastSocket.Xdp.PrepareAtomic
import FastSocket.Async.DatagramErrors
import FastSocket.Os.PoolRecovery
import FastSocket.Async.Lease
import FastSocket.Async.TransmitOrder
import FastSocket.Xdp.MemberRoom
import FastSocket.Xdp.StuckRing
import FastSocket.Xdp.RouteFanout
import FastSocket.Xdp.NetlinkFallback
import FastSocket.Xdp.BufferRefinement
import FastSocket.Xdp.Offloads
import FastSocket.Async.Backlog
import FastSocket.Xdp.MemberPort
import FastSocket.Xdp.FilterAgreement
import FastSocket.Os.ReceiveExact
import FastSocket.Os.TransmitOptions
import FastSocket.Poptrie.Validate
import FastSocket.Xdp.UdpRoundTrip
import FastSocket.Xdp.IrqNames
import FastSocket.Xdp.FactoryQueues
import FastSocket.Xdp.Ipv6Fragments
import FastSocket.Xdp.SharedSplit
import FastSocket.Xdp.AllocateRetry
import FastSocket.Xdp.NetlinkWire
import FastSocket.Poptrie.DirectSize
import FastSocket.Poptrie.LiveValues
import FastSocket.Xdp.SamePaths
