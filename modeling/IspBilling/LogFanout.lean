import Mathlib.Data.Finset.Basic
import Mathlib.Data.List.Perm.Subperm
import Mathlib.Data.Multiset.Filter
import IspBilling.Traces

/-! # Live provisioning logs across pods

A browser follows a provisioning session over a WebSocket to one of several pods.  `send_message`
does not write to sockets: it publishes the message, and the subscriber of every pod hands it to
`deliver_local`, which writes to the sockets that this pod has registered for the session; only if
the publication raises does the sender's own pod deliver directly.  After the publication the message
goes to a replay list of the newest hundred, which a socket reads once after it is registered.

The state is that of all pods, all sockets and Redis, and the events are the points at which the
coroutines yield, so a run is any interleaving of senders, subscribers, replays and clients, with any
failures: a publication that raises before or after Redis has served it, an append that fails, a lost
subscription, a socket that breaks.  `Finset ℕ` is `Set[WebSocket]`: sockets are known by a number. -/

namespace IspBilling.Stream

open Runs

variable {M : Type*}

/-! ### Redis -/

def channelName (session_id : String) : String := "prov_ws:" ++ session_id

/-- What the subscriber reads off the name of a channel: nothing if the prefix is another one. -/
def sessionOfChannel (channel : String) : Option String :=
  if "prov_ws:".toList.isPrefixOf channel.toList then
    some (String.ofList (channel.toList.drop "prov_ws:".length))
  else none

/-- `_BUFFER_MAX`. -/
def bufferMax : ℕ := 100

/-- `LPUSH` and `LTRIM 0 max(0, max_len - 1)`: the newest entry is the first. -/
def lpushCapped (max_len : ℕ) (value : M) (entries : List M) : List M :=
  (value :: entries).take (max 0 (max_len - 1) + 1)

/-! ### Sockets and pods -/

/-- How far `websocket_endpoint` has come for a socket. -/
inductive Endpoint (M : Type*) where
  /-- Not accepted. -/
  | absent
  /-- Registered; `replay_buffer` has not read the list. -/
  | connected
  /-- In `replay_buffer`, with these entries still to be sent. -/
  | replaying (entries : List M)
  /-- In the loop that waits for messages of the client. -/
  | receiving
  /-- Returned. -/
  | closed
deriving DecidableEq, Repr

inductive Frame (M : Type*) where
  | live (message : M)
  | replayed (message : M)
  | pong
deriving DecidableEq, Repr

/-- A socket; `client_state` tells whether it is `CONNECTED`. -/
structure Socket (M : Type*) where
  pod : ℕ
  session_id : String
  endpoint : Endpoint M
  client_state : Bool
  sent : List (Frame M)

/-- A call of `deliver_local`: `connections` is what is left of its copy of the set. -/
structure Delivery (M : Type*) where
  session_id : String
  message : M
  connections : Finset ℕ
  bySubscriber : Bool

/-- A pod: its sockets by session, its subscription with the messages that wait on it, and its calls
of `deliver_local`. -/
structure Pod (M : Type*) where
  active_connections : String → Option (Finset ℕ)
  subscribed : Bool
  channel : List (String × M)
  deliveries : List (Delivery M)

/-- Pods, sockets, the replay lists, and the calls of `send_message` that are between `PUBLISH` and
`LPUSH`. -/
structure Fanout (M : Type*) where
  pods : ℕ → Pod M
  sockets : ℕ → Socket M
  buffers : String → List M
  appending : List (String × M)

/-- No socket, no message, and no subscriber that has subscribed. -/
def Fanout.init : Fanout M where
  pods := fun _ => ⟨fun _ => none, false, [], []⟩
  sockets := fun _ => ⟨0, "", .absent, false, []⟩
  buffers := fun _ => []
  appending := []

namespace Socket

variable (c : Socket M)

def send (f : Frame M) : Socket M := { c with sent := c.sent ++ [f] }

/-- The messages that the socket was sent by `deliver_local`. -/
def live : List M :=
  c.sent.filterMap fun | .live m => some m | _ => none

/-- The messages that the socket was sent by `replay_buffer`. -/
def replayed : List M :=
  c.sent.filterMap fun | .replayed m => some m | _ => none

/-- The entries that `replay_buffer` has still to send. -/
def toReplay : List M :=
  match c.endpoint with
  | .replaying entries => entries
  | _ => []

/-- `replay_buffer` goes on with these entries. -/
def replay (entries : List M) : Socket M :=
  { c with endpoint := if entries.isEmpty then .receiving else .replaying entries }

end Socket

/-- What is left of a call of `deliver_local` after it has dealt with a socket: nothing if it was the
last one. -/
def Delivery.rest (d : Delivery M) : List (Delivery M) := if d.connections = ∅ then [] else [d]

def pendingFor (w : ℕ) (deliveries : List (Delivery M)) : List M :=
  (deliveries.filter fun d => decide (w ∈ d.connections)).map Delivery.message

namespace Pod

variable (p : Pod M)

def registered (session_id : String) : Finset ℕ := (p.active_connections session_id).getD ∅

/-- The registration of `connect`. -/
def connect (w : ℕ) (session_id : String) : Pod M :=
  { p with active_connections :=
      Function.update p.active_connections session_id (some (insert w (p.registered session_id))) }

/-- `disconnect`: an empty session is deleted. -/
def disconnect (w : ℕ) (session_id : String) : Pod M :=
  match p.active_connections session_id with
  | none => p
  | some connections =>
      let left := connections.erase w
      { p with active_connections :=
          Function.update p.active_connections session_id (if left = ∅ then none else some left) }

/-- `self.active_connections[session_id].discard(websocket)`: `none` is `KeyError`. -/
def discard (w : ℕ) (session_id : String) : Option (Pod M) :=
  (p.active_connections session_id).map fun connections =>
    { p with active_connections :=
        Function.update p.active_connections session_id (some (connections.erase w)) }

/-- `deliver_local` up to its loop. -/
def deliverLocal (bySubscriber : Bool) (session_id : String) (message : M) : Pod M :=
  match p.active_connections session_id with
  | none => p
  | some connections =>
      { p with deliveries := p.deliveries ++ (Delivery.mk session_id message connections bySubscriber).rest }

/-- The subscriber has an error: it closes its subscription, with what waits on it, and backs off. -/
def restart : Pod M := { p with subscribed := false, channel := [] }

/-- The subscriber is in `deliver_local`. -/
def isDelivering : Bool := p.deliveries.any Delivery.bySubscriber

/-- What the subscriber hands to `deliver_local` when it takes the next message. -/
def next : Option (String × M) :=
  match p.channel with
  | [] => none
  | (channel, m) :: _ =>
      if p.isDelivering then none else (sessionOfChannel channel).map fun session_id => (session_id, m)

/-- The subscriber takes the next message. -/
def receive : Pod M :=
  if p.isDelivering then p
  else
    match p.channel with
    | [] => p
    | (channel, m) :: rest =>
        match sessionOfChannel channel with
        | none => { p with channel := rest }
        | some session_id => { p with channel := rest }.deliverLocal true session_id m

/-- A message is published: it waits on the subscription, if there is one. -/
def notify (published : List (String × M)) : Pod M :=
  if p.subscribed then { p with channel := p.channel ++ published } else p

end Pod

/-! ### Events -/

/-- A point at which some coroutine goes on. -/
inductive Event (M : Type*) where
  /-- `connect` for a new socket. -/
  | accept (w pod : ℕ) (session_id : String)
  /-- `replay_buffer` reads the list, if Redis answers. -/
  | fetch (w : ℕ) (answered : Bool)
  /-- `replay_buffer` sends the next entry. -/
  | replay (w : ℕ) (delivered : Bool)
  /-- The client sends a ping. -/
  | ping (w : ℕ)
  /-- `receive_text` or the answer raises; the socket is `CONNECTED` still, or it is not. -/
  | close (w : ℕ) (client_state : Bool)
  /-- `send_message` publishes; Redis serves the `retries`, and the last try if it does not raise. -/
  | publish (pod : ℕ) (session_id : String) (message : M) (retries : ℕ) (raised : Bool)
  /-- A `send_message` that has published appends to the replay list. -/
  | append (i : ℕ) (stored : Bool)
  /-- The replay list of a session expires. -/
  | expire (session_id : String)
  /-- The subscriber of a pod subscribes. -/
  | subscribe (pod : ℕ)
  /-- The subscriber of a pod loses its connection. -/
  | lose (pod : ℕ)
  /-- The subscriber of a pod takes the next message. -/
  | receive (pod : ℕ)
  /-- The `i`-th running call of `deliver_local` deals with a socket of its copy. -/
  | deliver (pod i w : ℕ) (delivered : Bool)

/-- The call of `deliver_local` that starts is one of the subscriber. -/
def Event.bySubscriber : Event M → Bool
  | .receive _ => true
  | _ => false

/-- How often Redis serves a publication. -/
def served (retries : ℕ) (raised : Bool) : ℕ := if raised then retries else retries + 1

namespace Fanout

variable (s : Fanout M)

def setPod (pod : ℕ) (p : Pod M) : Fanout M := { s with pods := Function.update s.pods pod p }

def setSocket (w : ℕ) (c : Socket M) : Fanout M := { s with sockets := Function.update s.sockets w c }

/-- `connect`. -/
def accept (w pod : ℕ) (session_id : String) : Fanout M :=
  match (s.sockets w).endpoint with
  | .absent =>
      (s.setSocket w ⟨pod, session_id, .connected, true, []⟩).setPod pod ((s.pods pod).connect w session_id)
  | _ => s

/-- `replay_buffer` up to its loop; the entries are read newest first and reversed. -/
def fetch (w : ℕ) (answered : Bool) : Fanout M :=
  let c := s.sockets w
  match c.endpoint with
  | .connected => s.setSocket w (c.replay (if answered then (s.buffers c.session_id).reverse else []))
  | _ => s

/-- The loop of `replay_buffer`. -/
def replay (w : ℕ) (delivered : Bool) : Fanout M :=
  let c := s.sockets w
  match c.endpoint with
  | .replaying (m :: entries) =>
      s.setSocket w (if delivered then (c.send (.replayed m)).replay entries else c.replay [])
  | _ => s

def ping (w : ℕ) : Fanout M :=
  let c := s.sockets w
  match c.endpoint with
  | .receiving => s.setSocket w (c.send .pong)
  | _ => s

/-- The end of `websocket_endpoint`. -/
def close (w : ℕ) (client_state : Bool) : Fanout M :=
  let c := s.sockets w
  match c.endpoint with
  | .receiving =>
      (s.setSocket w { c with endpoint := .closed, client_state := client_state }).setPod c.pod
        ((s.pods c.pod).disconnect w c.session_id)
  | _ => s

/-- `send_message`, up to the end of `PUBLISH` and with the fallback. -/
def publish (pod : ℕ) (session_id : String) (message : M) (retries : ℕ) (raised : Bool) : Fanout M :=
  let copies := List.replicate (served retries raised) (channelName session_id, message)
  let published : Fanout M := { s with pods := fun q => (s.pods q).notify copies }
  if raised then published.setPod pod ((published.pods pod).deliverLocal false session_id message)
  else { published with appending := s.appending ++ [(session_id, message)] }

/-- The end of `send_message`. -/
def append (i : ℕ) (stored : Bool) : Fanout M :=
  match s.appending[i]? with
  | none => s
  | some (session_id, m) =>
      { s with
        appending := s.appending.eraseIdx i
        buffers :=
          if stored then
            Function.update s.buffers session_id (lpushCapped bufferMax m (s.buffers session_id))
          else s.buffers }

/-- One turn of the loop of `deliver_local`. -/
def deliver (pod i w : ℕ) (delivered : Bool) : Fanout M :=
  let p := s.pods pod
  match p.deliveries[i]? with
  | none => s
  | some d =>
      if w ∈ d.connections then
        let left := p.deliveries.take i ++ { d with connections := d.connections.erase w }.rest ++
          p.deliveries.drop (i + 1)
        if (s.sockets w).client_state && delivered then
          (s.setSocket w ((s.sockets w).send (.live d.message))).setPod pod { p with deliveries := left }
        else
          match p.discard w d.session_id with
          | some p' => s.setPod pod { p' with deliveries := left }
          | none =>
              let p' := if d.bySubscriber then p.restart else p
              s.setPod pod { p' with deliveries := p.deliveries.eraseIdx i }
      else s

def step (s : Fanout M) : Event M → Fanout M
  | .accept w pod session_id => s.accept w pod session_id
  | .fetch w answered => s.fetch w answered
  | .replay w delivered => s.replay w delivered
  | .ping w => s.ping w
  | .close w client_state => s.close w client_state
  | .publish pod session_id message retries raised => s.publish pod session_id message retries raised
  | .append i stored => s.append i stored
  | .expire session_id => { s with buffers := Function.update s.buffers session_id [] }
  | .subscribe pod =>
      if (s.pods pod).subscribed then s
      else s.setPod pod { s.pods pod with subscribed := true, channel := [] }
  | .lose pod => if (s.pods pod).isDelivering then s else s.setPod pod (s.pods pod).restart
  | .receive pod => s.setPod pod (s.pods pod).receive
  | .deliver pod i w delivered => s.deliver pod i w delivered

/-- The calls of `deliver_local` by the subscriber of a pod. -/
def received (pod : ℕ) (s : Fanout M) : Event M → List (String × M)
  | .receive q => if q = pod then (s.pods pod).next.toList else []
  | _ => []

/-- All calls of `deliver_local` on a pod: the others are of a `send_message` there that raises. -/
def calls (pod : ℕ) (s : Fanout M) : Event M → List (String × M)
  | .publish q session_id message _ raised => if q = pod ∧ raised then [(session_id, message)] else []
  | e => s.received pod e

def published (_ : Fanout M) : Event M → List (String × M)
  | .publish _ session_id message retries raised =>
      List.replicate (served retries raised) (session_id, message)
  | _ => []

/-- The messages whose publication does not raise. -/
def accepted (_ : Fanout M) : Event M → List (String × M)
  | .publish _ session_id message _ false => [(session_id, message)]
  | _ => []

end Fanout

/-- The state that a run reaches from the start. -/
def reached (es : List (Event M)) : Fanout M := exec Fanout.step Fanout.init es

def ofSession (session_id : String) (l : List (String × M)) : List M :=
  (l.filter fun q => q.1 = session_id).map Prod.snd

end IspBilling.Stream
