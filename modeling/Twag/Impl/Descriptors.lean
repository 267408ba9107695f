import Mathlib.Logic.Function.Basic
import Twag.Framework.Apart
import Twag.Impl.Threads

/-!
# File descriptors (`event_loop.cpp`, the servers, `main.cpp`, `libgtpnl`)

The process from `main` to its end, as the program of the calls that open,
bind, watch and close descriptors, and of the accesses to the members that hold
them and to `handlers_`. A call that does none of this is left out, or is an
`ask` where the code branches on its result. Any call can fail. The kernel
gives a new descriptor any number that is not in use, so a number that one
thread has closed can be another thread's next descriptor.

The thread of `main` initialises `TwagCore`, runs the event loop, in which it
handles Create Session Responses, and runs the destructors. The dispatch
threads of freeDiameter open a socket to find their local address when they
send a Create Session Request. The descriptors of freeDiameter itself are left
out.
-/

namespace Twag.Impl.Descriptors

/-- What a descriptor is: of `epoll_create1`, a UDP socket, or a netlink socket of
`NETLINK_ROUTE` or `NETLINK_GENERIC`. -/
inductive Kind where
  | epoll
  | udp
  | route
  | generic
deriving DecidableEq, Repr

/-- An open descriptor, and the thread that opened it. -/
structure Descriptor where
  kind : Kind
  thread : ThreadId
  bound : Bool
  /-- It is in the interest list of `epoll_fd_`. -/
  watched : Bool
deriving DecidableEq, Repr

inductive Server where
  | radius
  | dhcp
  | s2a
deriving DecidableEq, Repr

inductive Member where
  | epollFd
  | udpFd (server : Server)
deriving DecidableEq, Repr

/-- The open descriptors, and the members of the objects in the thread of `main`. -/
structure Os where
  fds : Nat → Option Descriptor
  /-- `none` is -1, or that there is no object. -/
  members : Member → Option Nat
  /-- `handlers_`: whose `handle_udp_rx` is called. -/
  handlers : Nat → Option Server

namespace Os

/-- No descriptor is open, and there is no object. -/
def fresh : Os := ⟨fun _ => none, fun _ => none, fun _ => none⟩

def put (s : Os) (fd : Nat) (d : Option Descriptor) : Os :=
  { s with fds := Function.update s.fds fd d }

/-- `close`; -1 is not open. -/
def close (s : Os) : Option Nat → Os
  | none => s
  | some fd => s.put fd none

end Os

/-- The calls and the accesses. -/
inductive Sys where
  /-- `socket`, `epoll_create1` or `mnl_socket_open`, by this thread. -/
  | create (thread : ThreadId) (kind : Kind)
  /-- `bind` or `mnl_socket_bind` -/
  | bind (fd : Nat)
  /-- `close` or `mnl_socket_close` -/
  | close (fd : Option Nat)
  /-- `EPOLL_CTL_ADD` -/
  | epollAdd (fd : Nat)
  /-- `EPOLL_CTL_DEL` -/
  | epollDel (fd : Nat)
  | epollWait
  | get (m : Member)
  | set (m : Member) (fd : Option Nat)
  /-- `handlers_[fd] = ...`, or `handlers_.erase(fd)`. -/
  | handler (fd : Nat) (server : Option Server)
  /-- A call that neither opens nor closes a descriptor. -/
  | ask
deriving DecidableEq, Repr

namespace Sys

abbrev Ans : Sys → Type
  | .create _ _ | .get _ => Option Nat
  | .bind _ | .epollAdd _ | .epollDel _ | .ask => Bool
  | .close _ | .epollWait | .set _ _ | .handler _ _ => Unit

/-- What a call can answer and leave. Removing a descriptor from the interest
list fails only if it is not there; closing one removes it. -/
def Sem : (o : Sys) → Os → o.Ans → Os → Prop
  | .create t kind, s, ans, s' =>
    (ans = none ∧ s' = s) ∨
      ∃ fd, ans = some fd ∧ s.fds fd = none ∧ s' = s.put fd (some ⟨kind, t, false, false⟩)
  | .bind fd, s, ans, s' =>
    s' = if ans then s.put fd ((s.fds fd).map ({ · with bound := true })) else s
  | .close fd, s, _, s' => s' = s.close fd
  | .epollAdd fd, s, ans, s' =>
    s' = if ans then s.put fd ((s.fds fd).map ({ · with watched := true })) else s
  | .epollDel fd, s, ans, s' =>
    ans = (s.fds fd).any (·.watched) ∧
      s' = s.put fd ((s.fds fd).map ({ · with watched := false }))
  | .get m, s, ans, s' => ans = s.members m ∧ s' = s
  | .set m fd, s, _, s' => s' = { s with members := Function.update s.members m fd }
  | .handler fd server, s, _, s' => s' = { s with handlers := Function.update s.handlers fd server }
  | .epollWait, s, _, s' | .ask, s, _, s' => s' = s

end Sys

/-- A program that makes these calls. -/
abbrev Calls : Type → Type := Prog Sys.Ans

/-! ## The calls -/

def create (t : ThreadId) (kind : Kind) : Calls (Option Nat) := .op (Sys.create t kind)

def bindFd (fd : Nat) : Calls Bool := .op (Sys.bind fd)

def closeFd (fd : Option Nat) : Calls Unit := .op (Sys.close fd)

def epollAdd (fd : Nat) : Calls Bool := .op (Sys.epollAdd fd)

def epollDel (fd : Nat) : Calls Bool := .op (Sys.epollDel fd)

def epollWait : Calls Unit := .op Sys.epollWait

def member (m : Member) : Calls (Option Nat) := .op (Sys.get m)

def setMember (m : Member) (fd : Option Nat) : Calls Unit := .op (Sys.set m fd)

def setHandler (fd : Nat) (server : Option Server) : Calls Unit := .op (Sys.handler fd server)

def ask : Calls Bool := .op Sys.ask

/-! ## `EventLoop` -/

/-- `EventLoop::initialize` -/
def eventLoopInitialize : Calls Bool := do
  let fd ← create .loop .epoll
  setMember .epollFd fd
  return fd.isSome

/-- `EventLoop::add_fd` -/
def addFd (fd : Nat) (server : Server) : Calls Bool := do
  if !(← epollAdd fd) then return false
  setHandler fd (some server)
  return true

/-- `EventLoop::remove_fd` -/
def removeFd (fd : Nat) : Calls Bool := do
  if !(← epollDel fd) then return false
  setHandler fd none
  return true

/-- `~EventLoop` -/
def eventLoopDestroy : Calls Unit := do
  match ← member .epollFd with
  | none => pure ()
  | some fd => closeFd (some fd)
  setMember .epollFd none

/-! ## The servers -/

/-- What the three `initialize` do; `check` is made between `bind` and `add_fd`. -/
def serverInitializeWith (server : Server) (check : Calls Bool) : Calls Bool := do
  let udpFd ← create .loop .udp
  setMember (.udpFd server) udpFd
  match udpFd with
  | none => return false
  | some fd =>
    if !(← bindFd fd) then
      closeFd (some fd)
      setMember (.udpFd server) none
      return false
    if !(← check) then return false
    if !(← addFd fd server) then return false
    return true

/-- `initialize` of `RadiusServer`, `DhcpServer` and `S2aInterface`, which also reads
the address of the P-GW (`inet_pton`). -/
def serverInitialize : Server → Calls Bool
  | .radius => serverInitializeWith .radius (pure true)
  | .dhcp => serverInitializeWith .dhcp (pure true)
  | .s2a => serverInitializeWith .s2a ask

/-- `~RadiusServer`, `~DhcpServer` and `~S2aInterface`. -/
def serverDestroy (server : Server) : Calls Unit := do
  match ← member (.udpFd server) with
  | none => pure ()
  | some fd =>
    let _ ← removeFd fd
    closeFd (some fd)
  setMember (.udpFd server) none

/-- The socket that finds the local address, in `send_create_session_request` and
`DataPlane::initialize`. -/
def localAddress (t : ThreadId) : Calls Unit := do
  match ← create t .udp with
  | none => return
  | some fd => closeFd (some fd)

/-- `DataPlane::initialize` -/
def dataPlaneInitialize : Calls Bool := do
  localAddress .loop
  ask

/-! ## Tunnels -/

/-- `rtnl_open` -/
def rtnlOpen : Calls (Option Nat) := do
  match ← create .loop .route with
  | none => return none
  | some nl =>
    if !(← bindFd nl) then
      closeFd (some nl)
      return none
    return some nl

/-- `gtp_dev_create`, by `gtp_dev_talk`. -/
def gtpDevCreate : Calls Unit := do
  match ← rtnlOpen with
  | none => return
  | some nl => closeFd (some nl)

/-- `genl_socket_open`: a socket that cannot be bound is not closed. -/
def genlSocketOpen : Calls (Option Nat) := do
  match ← create .loop .generic with
  | none => return none
  | some nl =>
    if !(← bindFd nl) then return none
    return some nl

/-- `setup_kernel_gtpu_tunnel` -/
def setupKernelGtpuTunnel : Calls Bool := do
  let fd0 ← create .loop .udp
  let fd1 ← create .loop .udp
  gtpDevCreate
  match ← genlSocketOpen with
  | none =>
    closeFd fd0
    closeFd fd1
    return false
  | some nl =>
    -- `genl_lookup_family`
    if !(← ask) then
      closeFd (some nl)
      closeFd fd0
      closeFd fd1
      return false
    -- `gtp_tunnel_alloc`
    if !(← ask) then
      closeFd (some nl)
      closeFd fd0
      closeFd fd1
      return false
    closeFd (some nl)
    closeFd fd0
    closeFd fd1
    return true

/-! ## The process -/

/-- `TwagCore::initialize` -/
def coreInitialize : Calls Bool := do
  if !(← eventLoopInitialize) then return false
  if !(← serverInitialize .radius) then return false
  if !(← dataPlaneInitialize) then return false
  if !(← serverInitialize .dhcp) then return false
  -- `fd_core_initialize`, `fd_core_parseconf`, `fd_core_start` and `StaInterface::initialize`
  if !(← ask) then return false
  if !(← ask) then return false
  if !(← ask) then return false
  if !(← ask) then return false
  if !(← serverInitialize .s2a) then return false
  return true

/-- `~TwagCore`: the members, the last one first. -/
def coreDestroy : Calls Unit := do
  serverDestroy .dhcp
  serverDestroy .radius
  serverDestroy .s2a
  eventLoopDestroy

/-- So many Create Session Responses are handled. -/
def setupTunnels : Nat → Calls Unit
  | 0 => pure ()
  | n + 1 => do
    let _ ← setupKernelGtpuTunnel
    setupTunnels n

/-- `EventLoop::run`: for each turn, how many tunnels it sets up. -/
def run : List Nat → Calls Unit
  | [] => pure ()
  | n :: turns => do
    epollWait
    setupTunnels n
    run turns

/-- The arguments of `main`; `none` is a usage error. -/
def configFile : List String → String → Option String
  | [], file => some file
  | "-c" :: file :: args, _ => configFile args file
  | arg :: args, _ => if arg.toList.head? ≠ some '-' then configFile args arg else none

/-- `main`, and its exit code. -/
def main (args : List String) (turns : List Nat) : Calls Nat := do
  match configFile args "twag_config.json" with
  | none => return 1
  | some _ =>
    if !(← coreInitialize) then
      coreDestroy
      return 1
    run turns
    coreDestroy
    return 0

/-- The programs a thread runs. -/
def Job : ThreadId → Calls Unit → Prop
  | .loop, p => ∃ args turns, p = do let _ ← main args turns
  | .dispatch n, p => p = localAddress (.dispatch n)

/-- What the process can reach, its threads interleaving in any order. -/
def ProcessReaches (p : Pool ThreadId Sys.Ans Os) : Prop := Pool.Moves Sys.Sem Job (.idle .fresh) p

end Twag.Impl.Descriptors
