import IspBilling.LogFanout

/-! # What a socket is sent

`Consistent` says that the sockets of a pod, registered or in the copy of a running `deliver_local`,
are the ones that `connect` put there.  From it follows, for one step (`account_step`) and then for
all runs, that a registered socket has been sent, or is about to be sent, exactly the messages of its
session that `deliver_local` was called with since the socket was accepted (`registered_live`). -/

namespace IspBilling.Stream

open Runs

variable {M : Type*}

/-! ### Sockets and deliveries -/

section Frames

variable (c : Socket M) (m : M) (entries : List M)

@[simp] theorem live_send_live : (c.send (.live m)).live = c.live ++ [m] := by
  simp [Socket.live, Socket.send]

@[simp] theorem live_send_replayed : (c.send (.replayed m)).live = c.live := by
  simp [Socket.live, Socket.send]

@[simp] theorem live_send_pong : (c.send .pong).live = c.live := by
  simp [Socket.live, Socket.send]

@[simp] theorem replayed_send_live : (c.send (.live m)).replayed = c.replayed := by
  simp [Socket.replayed, Socket.send]

@[simp] theorem replayed_send_replayed : (c.send (.replayed m)).replayed = c.replayed ++ [m] := by
  simp [Socket.replayed, Socket.send]

@[simp] theorem replayed_send_pong : (c.send .pong).replayed = c.replayed := by
  simp [Socket.replayed, Socket.send]

@[simp] theorem live_replay : (c.replay entries).live = c.live := rfl

@[simp] theorem replayed_replay : (c.replay entries).replayed = c.replayed := rfl

@[simp] theorem toReplay_replay : (c.replay entries).toReplay = entries := by
  cases entries <;> rfl

theorem replay_endpoint_ne_absent : (c.replay entries).endpoint ≠ .absent := by
  cases entries <;> simp [Socket.replay]

end Frames

section Pending

variable {w : ℕ}

@[simp] theorem pendingFor_nil : pendingFor w ([] : List (Delivery M)) = [] := rfl

theorem pendingFor_append (l l' : List (Delivery M)) :
    pendingFor w (l ++ l') = pendingFor w l ++ pendingFor w l' := by
  simp [pendingFor]

theorem pendingFor_cons (d : Delivery M) (l : List (Delivery M)) :
    pendingFor w (d :: l) = (if w ∈ d.connections then [d.message] else []) ++ pendingFor w l := by
  by_cases h : w ∈ d.connections <;> simp [pendingFor, h]

theorem pendingFor_rest (d : Delivery M) :
    pendingFor w d.rest = if w ∈ d.connections then [d.message] else [] := by
  unfold Delivery.rest
  by_cases hempty : d.connections = ∅
  · simp [hempty]
  · rw [if_neg hempty, pendingFor_cons, pendingFor_nil, List.append_nil]

theorem split_deliveries {l : List (Delivery M)} {i : ℕ} {d : Delivery M} (h : l[i]? = some d) :
    l = l.take i ++ d :: l.drop (i + 1) ∧ l.eraseIdx i = l.take i ++ l.drop (i + 1) := by
  obtain ⟨hi, rfl⟩ := List.getElem?_eq_some_iff.mp h
  constructor
  · rw [← List.drop_eq_getElem_cons hi, List.take_append_drop]
  · exact List.eraseIdx_eq_take_drop_succ l i

end Pending

theorem ofSession_append (x : String) (l l' : List (String × M)) :
    ofSession x (l ++ l') = ofSession x l ++ ofSession x l' := by
  simp [ofSession]

@[simp] theorem ofSession_nil (x : String) : ofSession x ([] : List (String × M)) = [] := rfl

theorem ofSession_singleton (x y : String) (m : M) :
    ofSession x [(y, m)] = if y = x then [m] else [] := by
  by_cases h : y = x <;> simp [ofSession, h]

theorem sessionOfChannel_channelName (x : String) : sessionOfChannel (channelName x) = some x := by
  have hprefix : "prov_ws:".toList.isPrefixOf (channelName x).toList = true := by
    rw [List.isPrefixOf_iff_prefix]
    exact ⟨x.toList, by simp [channelName]⟩
  have hdrop : (channelName x).toList.drop "prov_ws:".length = x.toList := by
    have hlen : "prov_ws:".length = "prov_ws:".toList.length := String.length_toList.symm
    rw [channelName, String.toList_append, hlen, List.drop_left]
  rw [sessionOfChannel, if_pos hprefix, hdrop, String.ofList_toList]

/-! ### Pods -/

namespace Pod

variable {p p' : Pod M} {w : ℕ} {x y : String} {m : M} {b : Bool}

theorem mem_registered_connect {v : ℕ} :
    v ∈ (p.connect w x).registered y ↔ v ∈ p.registered y ∨ v = w ∧ y = x := by
  by_cases h : y = x
  · subst h
    simp [connect, registered, or_comm]
  · simp [connect, registered, h]

theorem mem_registered_disconnect {v : ℕ} :
    v ∈ (p.disconnect w x).registered y ↔ v ∈ p.registered y ∧ ¬ (v = w ∧ y = x) := by
  unfold disconnect
  by_cases h : y = x
  · subst h
    cases hac : p.active_connections y with
    | none => simp [registered, hac]
    | some connections =>
        by_cases hempty : connections.erase w = ∅
        · have hmem : v ∉ connections.erase w := by simp [hempty]
          rw [Finset.mem_erase] at hmem
          simp only [registered, hac, hempty, if_true, Function.update_self, Option.getD_none,
            Option.getD_some, Finset.notMem_empty, false_iff]
          tauto
        · simp only [registered, hac, hempty, if_false, Function.update_self, Option.getD_some,
            Finset.mem_erase]
          tauto
  · cases p.active_connections x <;> simp [registered, h]

theorem discard_eq_some (h : p.discard w x = some p') :
    (∀ v y, v ∈ p'.registered y ↔ v ∈ p.registered y ∧ ¬ (v = w ∧ y = x)) ∧
      p'.subscribed = p.subscribed ∧ p'.channel = p.channel ∧ p'.deliveries = p.deliveries := by
  obtain ⟨connections, hac, rfl⟩ := Option.map_eq_some_iff.mp h
  refine ⟨?_, rfl, rfl, rfl⟩
  intro v y
  by_cases hy : y = x
  · subst hy
    simp only [registered, hac, Function.update_self, Option.getD_some, Finset.mem_erase]
    tauto
  · simp [registered, hy]

theorem discard_eq_none (h : p.discard w x = none) : p.registered x = ∅ := by
  have hac : p.active_connections x = none := Option.map_eq_none_iff.mp h
  simp [registered, hac]

theorem deliverLocal_eq : p.deliverLocal b x m =
    { p with deliveries := p.deliveries ++ (Delivery.mk x m (p.registered x) b).rest } := by
  unfold deliverLocal registered
  cases p.active_connections x <;> simp [Delivery.rest]

@[simp] theorem registered_deliverLocal : (p.deliverLocal b x m).registered y = p.registered y := by
  rw [deliverLocal_eq]
  rfl

@[simp] theorem notify_active_connections (l : List (String × M)) :
    (p.notify l).active_connections = p.active_connections := by
  unfold notify
  split <;> rfl

@[simp] theorem notify_deliveries (l : List (String × M)) :
    (p.notify l).deliveries = p.deliveries := by
  unfold notify
  split <;> rfl

@[simp] theorem notify_subscribed (l : List (String × M)) :
    (p.notify l).subscribed = p.subscribed := by
  unfold notify
  split <;> rfl

@[simp] theorem registered_notify (l : List (String × M)) :
    (p.notify l).registered x = p.registered x := by
  simp [registered]

/-- What the subscriber does with the next message: it is in a call already, it drops a message of
another channel, or it calls `deliver_local`. -/
theorem receive_cases (p : Pod M) :
    (p.next = none ∧ p.receive.active_connections = p.active_connections ∧
        p.receive.subscribed = p.subscribed ∧ p.receive.deliveries = p.deliveries) ∨
      ∃ channel y m rest, p.channel = (channel, m) :: rest ∧ p.isDelivering = false ∧
        sessionOfChannel channel = some y ∧ p.next = some (y, m) ∧
        p.receive = { p with channel := rest }.deliverLocal true y m := by
  unfold receive next
  cases hd : p.isDelivering with
  | true => cases p.channel <;> simp
  | false =>
      cases hc : p.channel with
      | nil => simp
      | cons q rest =>
          cases hx : sessionOfChannel q.1 with
          | none => simp [hx]
          | some y => exact .inr ⟨q.1, y, q.2, rest, rfl, rfl, hx, by simp [hx], by simp [hx]⟩

end Pod

/-! ### One step -/

namespace Fanout

variable {s : Fanout M} {e : Event M} {w pod : ℕ} {x : String}

theorem setPod_pods (q : ℕ) (p : Pod M) : (s.setPod q p).pods pod = if pod = q then p else s.pods pod := by
  simp [setPod, Function.update_apply]

@[simp] theorem setPod_sockets (q : ℕ) (p : Pod M) : (s.setPod q p).sockets = s.sockets := rfl

@[simp] theorem setSocket_pods (v : ℕ) (c : Socket M) : (s.setSocket v c).pods = s.pods := rfl

theorem setSocket_sockets (v : ℕ) (c : Socket M) :
    (s.setSocket v c).sockets w = if w = v then c else s.sockets w := by
  simp [setSocket, Function.update_apply]

/-- One turn of `deliver_local`: nothing, or the message is sent, or the socket is discarded, or the
session is gone and the call ends with `KeyError`. -/
theorem deliver_cases (s : Fanout M) (q i v : ℕ) (delivered : Bool) :
    s.deliver q i v delivered = s ∨
      ∃ pre d post, (s.pods q).deliveries = pre ++ d :: post ∧ v ∈ d.connections ∧
        (s.deliver q i v delivered =
            (s.setSocket v ((s.sockets v).send (.live d.message))).setPod q
              { s.pods q with
                deliveries := pre ++ { d with connections := d.connections.erase v }.rest ++ post } ∨
          (∃ p', (s.pods q).discard v d.session_id = some p' ∧
            s.deliver q i v delivered = s.setPod q
              { p' with
                deliveries := pre ++ { d with connections := d.connections.erase v }.rest ++ post }) ∨
          (s.pods q).discard v d.session_id = none ∧
            s.deliver q i v delivered = s.setPod q
              { (if d.bySubscriber then (s.pods q).restart else s.pods q) with
                deliveries := pre ++ post }) := by
  cases hd : (s.pods q).deliveries[i]? with
  | none => exact .inl (by simp only [deliver, hd])
  | some d =>
      obtain ⟨hsplit, herase⟩ := split_deliveries hd
      by_cases hv : v ∈ d.connections
      · refine .inr ⟨_, d, _, hsplit, hv, ?_⟩
        by_cases hsent : ((s.sockets v).client_state && delivered) = true
        · exact .inl (by simp only [deliver, hd, if_pos hv, if_pos hsent])
        · cases hp : (s.pods q).discard v d.session_id with
          | some p' =>
              exact .inr (.inl ⟨p', rfl, by simp only [deliver, hd, if_pos hv, if_neg hsent, hp]⟩)
          | none =>
              exact .inr (.inr ⟨rfl, by simp only [deliver, hd, if_pos hv, if_neg hsent, hp, herase]⟩)
      · exact .inl (by simp only [deliver, hd, if_neg hv])

theorem setSocket_kept {v : ℕ} {c : Socket M} (h : (s.sockets w).endpoint ≠ .absent)
    (hpod : c.pod = (s.sockets v).pod) (hsession : c.session_id = (s.sockets v).session_id)
    (hc : c.endpoint ≠ .absent) :
    ((s.setSocket v c).sockets w).pod = (s.sockets w).pod ∧
      ((s.setSocket v c).sockets w).session_id = (s.sockets w).session_id ∧
      ((s.setSocket v c).sockets w).endpoint ≠ .absent := by
  rw [setSocket_sockets]
  split
  · rename_i hv
    rw [hv]
    exact ⟨hpod, hsession, hc⟩
  · exact ⟨rfl, rfl, h⟩

theorem socket_step (h : (s.sockets w).endpoint ≠ .absent) (e : Event M) :
    ((s.step e).sockets w).pod = (s.sockets w).pod ∧
      ((s.step e).sockets w).session_id = (s.sockets w).session_id ∧
      ((s.step e).sockets w).endpoint ≠ .absent := by
  have hsame : (s.sockets w).pod = (s.sockets w).pod ∧
      (s.sockets w).session_id = (s.sockets w).session_id ∧ (s.sockets w).endpoint ≠ .absent :=
    ⟨rfl, rfl, h⟩
  cases e with
  | accept v q y =>
      simp only [step, accept]
      split
      · rename_i hv
        have hne : w ≠ v := by
          rintro rfl
          exact h hv
        rwa [setPod_sockets, setSocket_sockets, if_neg hne]
      · exact hsame
  | fetch v answered =>
      simp only [step, fetch]
      split
      · exact setSocket_kept h rfl rfl (replay_endpoint_ne_absent _ _)
      · exact hsame
  | replay v delivered =>
      simp only [step, replay]
      split
      · cases delivered <;> exact setSocket_kept h rfl rfl (replay_endpoint_ne_absent _ _)
      · exact hsame
  | ping v =>
      simp only [step, ping]
      split
      · rename_i hv
        exact setSocket_kept h rfl rfl (by simp [Socket.send, hv])
      · exact hsame
  | close v client_state =>
      simp only [step, close]
      split
      · exact setSocket_kept h rfl rfl (by simp)
      · exact hsame
  | publish q y m retries raised => cases raised <;> exact hsame
  | append i stored =>
      simp only [step, append]
      split <;> exact hsame
  | expire y => exact hsame
  | subscribe q =>
      simp only [step]
      split <;> exact hsame
  | lose q =>
      simp only [step]
      split <;> exact hsame
  | receive q => exact hsame
  | deliver q i v delivered =>
      simp only [step]
      rcases s.deliver_cases q i v delivered with h' | ⟨pre, d, post, -, -, h' | ⟨p', -, h'⟩ | ⟨-, h'⟩⟩
      · rwa [h']
      · rw [h', setPod_sockets]
        by_cases hv : w = v
        · subst hv
          exact setSocket_kept h rfl rfl h
        · rwa [setSocket_sockets, if_neg hv]
      · rwa [h', setPod_sockets]
      · rwa [h', setPod_sockets]

theorem registered_step (h : w ∈ ((s.step e).pods pod).registered x) :
    w ∈ (s.pods pod).registered x ∨ (s.sockets w).endpoint = .absent ∧ e = .accept w pod x := by
  -- a step that puts another pod in place
  have hset (s₁ : Fanout M) (hs₁ : s₁.pods = s.pods) (q : ℕ) (p : Pod M)
      (hp : ∀ v y, v ∈ p.registered y → v ∈ (s.pods q).registered y)
      (h : w ∈ ((s₁.setPod q p).pods pod).registered x) : w ∈ (s.pods pod).registered x := by
    rw [setPod_pods, hs₁] at h
    split at h
    · rename_i hq
      rw [hq]
      exact hp _ _ h
    · exact h
  cases e with
  | accept v q y =>
      simp only [step, accept] at h
      split at h
      · rename_i hv
        rw [setPod_pods] at h
        split at h
        · rename_i hq
          subst hq
          rcases Pod.mem_registered_connect.mp h with h | ⟨rfl, rfl⟩
          · exact .inl h
          · exact .inr ⟨hv, rfl⟩
        · exact .inl h
      · exact .inl h
  | fetch v answered =>
      simp only [step, fetch] at h
      split at h <;> exact .inl h
  | replay v delivered =>
      simp only [step, replay] at h
      split at h <;> exact .inl h
  | ping v =>
      simp only [step, ping] at h
      split at h <;> exact .inl h
  | close v client_state =>
      simp only [step, close] at h
      split at h
      · exact .inl (hset _ rfl _ _ (fun _ _ hv => (Pod.mem_registered_disconnect.mp hv).1) h)
      · exact .inl h
  | publish q y m retries raised =>
      simp only [step, publish] at h
      split at h
      · rw [setPod_pods] at h
        split at h
        · rename_i hq
          subst hq
          exact .inl (by simpa using h)
        · exact .inl (by simpa using h)
      · exact .inl (by simpa using h)
  | append i stored =>
      simp only [step, append] at h
      split at h <;> exact .inl h
  | expire y => exact .inl h
  | subscribe q =>
      simp only [step] at h
      split at h
      · exact .inl h
      · refine .inl (hset _ rfl _ _ ?_ h)
        exact fun _ _ hv => hv
  | lose q =>
      simp only [step] at h
      split at h
      · exact .inl h
      · refine .inl (hset _ rfl _ _ ?_ h)
        exact fun _ _ hv => hv
  | receive q =>
      refine .inl (hset _ rfl _ _ ?_ h)
      intro v y hv
      rcases (s.pods q).receive_cases with ⟨-, hac, -⟩ | ⟨_, _, _, _, -, -, -, -, hr⟩
      · rwa [Pod.registered, hac] at hv
      · rw [hr, Pod.registered_deliverLocal] at hv
        exact hv
  | deliver q i v delivered =>
      simp only [step] at h
      rcases s.deliver_cases q i v delivered with h' | ⟨pre, d, post, -, -, h' | ⟨p', hp', h'⟩ | ⟨-, h'⟩⟩
      · rw [h'] at h
        exact .inl h
      · rw [h'] at h
        refine .inl (hset _ rfl _ _ ?_ h)
        exact fun _ _ hv => hv
      · rw [h'] at h
        refine .inl (hset _ rfl _ _ ?_ h)
        exact fun _ _ hv => (((Pod.discard_eq_some hp').1 _ _).mp hv).1
      · rw [h'] at h
        refine .inl (hset _ rfl _ _ ?_ h)
        cases d.bySubscriber <;> exact fun _ _ hv => hv

theorem deliveries_step (he : ∀ q i v delivered, e ≠ .deliver q i v delivered) :
    ((s.step e).pods pod).deliveries = (s.pods pod).deliveries ++ (s.calls pod e).flatMap fun q =>
      (Delivery.mk q.1 q.2 ((s.pods pod).registered q.1) e.bySubscriber).rest := by
  -- a step that leaves the calls of the pod as they are
  have hset (s₁ : Fanout M) (hs₁ : s₁.pods = s.pods) (q : ℕ) (p : Pod M)
      (hp : p.deliveries = (s.pods q).deliveries) :
      ((s₁.setPod q p).pods pod).deliveries = (s.pods pod).deliveries := by
    rw [setPod_pods, hs₁]
    split
    · rename_i hq
      rw [hq, hp]
    · rfl
  cases e with
  | accept v q y =>
      simp only [step, accept, calls, received, List.flatMap_nil, List.append_nil]
      split
      · exact hset _ rfl _ _ rfl
      · rfl
  | fetch v answered =>
      simp only [step, fetch, calls, received, List.flatMap_nil, List.append_nil]
      split <;> rfl
  | replay v delivered =>
      simp only [step, replay, calls, received, List.flatMap_nil, List.append_nil]
      split <;> rfl
  | ping v =>
      simp only [step, ping, calls, received, List.flatMap_nil, List.append_nil]
      split <;> rfl
  | close v client_state =>
      simp only [step, close, calls, received, List.flatMap_nil, List.append_nil]
      split
      · refine hset _ rfl _ _ ?_
        unfold Pod.disconnect
        split <;> rfl
      · rfl
  | publish q y m retries raised =>
      simp only [step, publish, calls, Event.bySubscriber]
      cases raised with
      | false => simp
      | true =>
          by_cases hq : pod = q
          · subst hq
            simp [setPod_pods, Pod.deliverLocal_eq]
          · simp [setPod_pods, hq, Ne.symm hq]
  | append i stored =>
      simp only [step, append, calls, received, List.flatMap_nil, List.append_nil]
      split <;> rfl
  | expire y =>
      simp [step, calls, received]
  | subscribe q =>
      simp only [step, calls, received, List.flatMap_nil, List.append_nil]
      split
      · rfl
      · exact hset _ rfl _ _ rfl
  | lose q =>
      simp only [step, calls, received, List.flatMap_nil, List.append_nil]
      split
      · rfl
      · exact hset _ rfl _ _ rfl
  | receive q =>
      simp only [step, calls, received, Event.bySubscriber]
      by_cases hq : q = pod
      · subst hq
        rw [setPod_pods, if_pos rfl, if_pos rfl]
        rcases (s.pods q).receive_cases with ⟨hn, -, -, hd⟩ | ⟨_, y, m, _, -, -, -, hn, hr⟩
        · simp [hn, hd]
        · simp [hn, hr, Pod.deliverLocal_eq, Pod.registered]
      · rw [setPod_pods, if_neg (Ne.symm hq), if_neg hq]
        simp
  | deliver q i v delivered => exact absurd rfl (he q i v delivered)

theorem live_step (h : (s.sockets w).endpoint ≠ .absent)
    (he : ∀ q i v delivered, e ≠ .deliver q i v delivered) :
    ((s.step e).sockets w).live = (s.sockets w).live := by
  -- a step that puts another socket in place
  have hset (v : ℕ) (c : Socket M) (hc : c.live = (s.sockets v).live) :
      ((s.setSocket v c).sockets w).live = (s.sockets w).live := by
    rw [setSocket_sockets]
    split
    · rename_i hv
      rw [hv, hc]
    · rfl
  cases e with
  | accept v q y =>
      simp only [step, accept]
      split
      · rename_i hv
        have hne : w ≠ v := by
          rintro rfl
          exact h hv
        rw [setPod_sockets, setSocket_sockets, if_neg hne]
      · rfl
  | fetch v answered =>
      simp only [step, fetch]
      split
      · exact hset v _ rfl
      · rfl
  | replay v delivered =>
      simp only [step, replay]
      split
      · cases delivered <;> exact hset v _ (by simp)
      · rfl
  | ping v =>
      simp only [step, ping]
      split
      · exact hset v _ (by simp)
      · rfl
  | close v client_state =>
      simp only [step, close]
      split
      · exact hset v _ rfl
      · rfl
  | publish q y m retries raised => cases raised <;> rfl
  | append i stored =>
      simp only [step, append]
      split <;> rfl
  | expire y => rfl
  | subscribe q =>
      simp only [step]
      split <;> rfl
  | lose q =>
      simp only [step]
      split <;> rfl
  | receive q => rfl
  | deliver q i v delivered => exact absurd rfl (he q i v delivered)

end Fanout

/-! ### The sockets of a pod are the ones that were accepted there -/

/-- A socket that a pod has registered for a session, or that a running call of `deliver_local` has
still to deal with, was accepted on that pod for that session. -/
structure Consistent (s : Fanout M) : Prop where
  registered : ∀ pod x, ∀ w ∈ (s.pods pod).registered x,
    (s.sockets w).pod = pod ∧ (s.sockets w).session_id = x ∧ (s.sockets w).endpoint ≠ .absent
  pending : ∀ pod, ∀ d ∈ (s.pods pod).deliveries, ∀ w ∈ d.connections,
    (s.sockets w).pod = pod ∧ (s.sockets w).session_id = d.session_id ∧
      (s.sockets w).endpoint ≠ .absent

namespace Consistent

variable {s : Fanout M} {w pod : ℕ} {x : String}

theorem init : Consistent (Fanout.init : Fanout M) where
  registered := by
    intro pod x w hw
    simp [Fanout.init, Pod.registered] at hw
  pending := by
    intro pod d hd
    simp [Fanout.init] at hd

theorem pending_step {e : Event M} {d : Delivery M} (hd : d ∈ ((s.step e).pods pod).deliveries)
    (hw : w ∈ d.connections) :
    (∃ d' ∈ (s.pods pod).deliveries, d'.session_id = d.session_id ∧ w ∈ d'.connections) ∨
      w ∈ (s.pods pod).registered d.session_id := by
  by_cases he : ∃ q i v delivered, e = .deliver q i v delivered
  · obtain ⟨q, i, v, delivered, rfl⟩ := he
    simp only [Fanout.step] at hd
    -- what is left of the copy of the call that has its turn
    have hturn {pre post : List (Delivery M)} {d₀ : Delivery M} (hq : pod = q)
        (hsplit : (s.pods q).deliveries = pre ++ d₀ :: post)
        (hmem : d ∈ pre ++ { d₀ with connections := d₀.connections.erase v }.rest ++ post) :
        ∃ d' ∈ (s.pods pod).deliveries, d'.session_id = d.session_id ∧ w ∈ d'.connections := by
      rw [hq, hsplit]
      rw [List.append_assoc, List.mem_append, List.mem_append] at hmem
      rcases hmem with hmem | hmem | hmem
      · exact ⟨d, by simp [hmem], rfl, hw⟩
      · unfold Delivery.rest at hmem
        split at hmem
        · simp at hmem
        · rw [List.mem_singleton.mp hmem] at hw ⊢
          exact ⟨d₀, by simp, rfl, Finset.mem_of_mem_erase hw⟩
      · exact ⟨d, by simp [hmem], rfl, hw⟩
    rcases s.deliver_cases q i v delivered with
      h' | ⟨pre, d₀, post, hsplit, -, h' | ⟨p', hp', h'⟩ | ⟨-, h'⟩⟩
    · rw [h'] at hd
      exact .inl ⟨d, hd, rfl, hw⟩
    · rw [h', Fanout.setPod_pods] at hd
      split at hd
      · rename_i hq
        exact .inl (hturn hq hsplit hd)
      · exact .inl ⟨d, hd, rfl, hw⟩
    · rw [h', Fanout.setPod_pods] at hd
      split at hd
      · rename_i hq
        exact .inl (hturn hq hsplit hd)
      · exact .inl ⟨d, hd, rfl, hw⟩
    · rw [h', Fanout.setPod_pods] at hd
      split at hd
      · rename_i hq
        refine .inl ⟨d, ?_, rfl, hw⟩
        rw [hq, hsplit]
        have hmem : d ∈ pre ++ post := hd
        rw [List.mem_append] at hmem ⊢
        exact hmem.imp_right (List.mem_cons_of_mem _)
      · exact .inl ⟨d, hd, rfl, hw⟩
  · have he' : ∀ q i v delivered, e ≠ .deliver q i v delivered :=
      fun q i v delivered h => he ⟨q, i, v, delivered, h⟩
    have hdel : ((s.step e).pods pod).deliveries = _ := Fanout.deliveries_step he'
    rw [hdel, List.mem_append] at hd
    rcases hd with hd | hd
    · exact .inl ⟨d, hd, rfl, hw⟩
    · obtain ⟨q, -, hq⟩ := List.mem_flatMap.mp hd
      unfold Delivery.rest at hq
      split at hq
      · simp at hq
      · rw [List.mem_singleton.mp hq] at hw ⊢
        exact .inr hw

theorem step (h : Consistent s) (e : Event M) : Consistent (s.step e) where
  registered := by
    intro pod x w hw
    rcases Fanout.registered_step hw with hold | ⟨habsent, rfl⟩
    · obtain ⟨hpod, hsession, hne⟩ := h.registered pod x w hold
      obtain ⟨hpod', hsession', hne'⟩ := Fanout.socket_step hne e
      exact ⟨hpod'.trans hpod, hsession'.trans hsession, hne'⟩
    · simp [Fanout.step, Fanout.accept, habsent, Fanout.setSocket_sockets]
  pending := by
    intro pod d hd w hw
    have hbefore : (s.sockets w).pod = pod ∧ (s.sockets w).session_id = d.session_id ∧
        (s.sockets w).endpoint ≠ .absent := by
      rcases pending_step hd hw with ⟨d', hd', hsession, hw'⟩ | hold
      · rw [← hsession]
        exact h.pending pod d' hd' w hw'
      · exact h.registered pod _ w hold
    obtain ⟨hpod, hsession, hne⟩ := hbefore
    obtain ⟨hpod', hsession', hne'⟩ := Fanout.socket_step hne e
    exact ⟨hpod'.trans hpod, hsession'.trans hsession, hne'⟩

theorem reached (es : List (Event M)) : Consistent (Stream.reached es) :=
  exec_of_invariant (fun _ e h => h.step e) init es

end Consistent

/-! ### The account of a socket -/

/-- What a socket has been sent by `deliver_local`, and then what is on its way to it. -/
def account (w pod : ℕ) (s : Fanout M) : List M :=
  (s.sockets w).live ++ pendingFor w (s.pods pod).deliveries

section Account

variable {s : Fanout M} {w pod : ℕ} {x : String}

theorem pendingFor_calls (hw : ∀ y, w ∈ (s.pods pod).registered y ↔ y = x) (b : Bool)
    (l : List (String × M)) :
    pendingFor w (l.flatMap fun q => (Delivery.mk q.1 q.2 ((s.pods pod).registered q.1) b).rest) =
      ofSession x l := by
  induction l with
  | nil => rfl
  | cons q l ih =>
      have hq : ofSession x (q :: l) = (if q.1 = x then [q.2] else []) ++ ofSession x l := by
        rw [← ofSession_singleton, ← ofSession_append, List.singleton_append]
      rw [List.flatMap_cons, pendingFor_append, pendingFor_rest, ih, hq]
      simp only [hw]

theorem Consistent.registered_iff (h : Consistent s) (hw : w ∈ (s.pods pod).registered x) (y : String) :
    w ∈ (s.pods pod).registered y ↔ y = x := by
  constructor
  · intro hy
    rw [← (h.registered pod y w hy).2.1, (h.registered pod x w hw).2.1]
  · rintro rfl
    exact hw

/-- A turn of a running call moves a message of the socket from one side of its account to the other,
or it leaves the account as it is. -/
theorem account_deliver (h : Consistent s) (hw : w ∈ (s.pods pod).registered x) {q i v : ℕ}
    {delivered : Bool} (hw' : w ∈ ((s.deliver q i v delivered).pods pod).registered x) :
    account w pod (s.deliver q i v delivered) = account w pod s ∨
      ∃ pre d post, (s.pods pod).deliveries = pre ++ d :: post ∧
        account w pod s = (s.sockets w).live ++ (pendingFor w pre ++ d.message :: pendingFor w post) ∧
        account w pod (s.deliver q i v delivered) =
          (s.sockets w).live ++ d.message :: (pendingFor w pre ++ pendingFor w post) := by
  rcases s.deliver_cases q i v delivered with
    h' | ⟨pre, d, post, hsplit, hv, h'⟩
  · rw [h']
    exact .inl rfl
  by_cases hq : pod = q
  · subst hq
    by_cases hvw : w = v
    · -- the socket itself has its turn, so the call is one for its session
      subst hvw
      have hsession : d.session_id = x := by
        rw [← (h.pending pod d (by simp [hsplit]) w hv).2.1, (h.registered pod x w hw).2.1]
      rcases h' with h' | ⟨p', hp', h'⟩ | ⟨hnone, -⟩
      · refine .inr ⟨pre, d, post, hsplit, ?_, ?_⟩
        · rw [account, hsplit, pendingFor_append, pendingFor_cons, if_pos hv, List.singleton_append]
        · have hrest : w ∉ d.connections.erase w := Finset.notMem_erase w _
          rw [h', account, Fanout.setPod_pods, if_pos rfl, Fanout.setPod_sockets,
            Fanout.setSocket_sockets, if_pos rfl, live_send_live, pendingFor_append,
            pendingFor_append, pendingFor_rest, if_neg hrest]
          simp
      · -- a discarded socket is registered no longer
        rw [h', Fanout.setPod_pods, if_pos rfl] at hw'
        exact absurd ⟨rfl, hsession.symm⟩ (((Pod.discard_eq_some hp').1 w x).mp hw').2
      · rw [hsession] at hnone
        rw [Pod.discard_eq_none hnone] at hw
        simp at hw
    · -- another socket has its turn
      refine .inl ?_
      have hrest : pendingFor w ({ d with connections := d.connections.erase v } : Delivery M).rest =
          pendingFor w [d] := by
        rw [pendingFor_rest, pendingFor_cons, pendingFor_nil, List.append_nil]
        simp [hvw]
      have hpending : pendingFor w (pre ++ d :: post) =
          pendingFor w (pre ++ { d with connections := d.connections.erase v }.rest ++ post) := by
        rw [pendingFor_append, pendingFor_append, pendingFor_append, hrest, ← List.singleton_append,
          pendingFor_append, List.append_assoc]
      rcases h' with h' | ⟨p', -, h'⟩ | ⟨hnone, h'⟩
      · rw [h', account, account, Fanout.setPod_pods, if_pos rfl, Fanout.setPod_sockets,
          Fanout.setSocket_sockets, if_neg hvw, hsplit, hpending]
      · rw [h', account, account, Fanout.setPod_pods, if_pos rfl, Fanout.setPod_sockets, hsplit,
          hpending]
      · -- the session is gone, so the call is for another one
        have hout : w ∉ d.connections := by
          intro hmem
          have hsession : d.session_id = x := by
            rw [← (h.pending pod d (by simp [hsplit]) w hmem).2.1, (h.registered pod x w hw).2.1]
          rw [hsession] at hnone
          rw [Pod.discard_eq_none hnone] at hw
          simp at hw
        rw [h', account, account, Fanout.setPod_pods, if_pos rfl, Fanout.setPod_sockets, hsplit,
          pendingFor_append, pendingFor_append, pendingFor_cons, if_neg hout, List.nil_append]
  · -- a call of another pod has no socket of this one
    refine .inl ?_
    have hvw : w ≠ v := by
      rintro rfl
      have hpod := (h.pending q d (by simp [hsplit]) w hv).1
      exact hq ((h.registered pod x w hw).1.symm.trans hpod)
    rcases h' with h' | ⟨p', -, h'⟩ | ⟨-, h'⟩
    · rw [h', account, account, Fanout.setPod_pods, if_neg hq, Fanout.setPod_sockets,
        Fanout.setSocket_sockets, if_neg hvw]
      rfl
    · rw [h', account, account, Fanout.setPod_pods, if_neg hq, Fanout.setPod_sockets]
    · rw [h', account, account, Fanout.setPod_pods, if_neg hq, Fanout.setPod_sockets]

theorem account_step (h : Consistent s) (hw : w ∈ (s.pods pod).registered x) {e : Event M}
    (hw' : w ∈ ((s.step e).pods pod).registered x) :
    (account w pod (s.step e)).Perm (account w pod s ++ ofSession x (s.calls pod e)) ∧
      ((s.pods pod).deliveries.length ≤ 1 →
        account w pod (s.step e) = account w pod s ++ ofSession x (s.calls pod e)) := by
  by_cases he : ∃ q i v delivered, e = .deliver q i v delivered
  · obtain ⟨q, i, v, delivered, rfl⟩ := he
    have hnone : ofSession x (s.calls pod (.deliver q i v delivered)) = [] := rfl
    rw [hnone, List.append_nil]
    rcases account_deliver h hw hw' with heq | ⟨pre, d, post, hsplit, hbefore, hafter⟩
    · exact ⟨.of_eq heq, fun _ => heq⟩
    · rw [Fanout.step, hbefore, hafter]
      refine ⟨(List.perm_middle.symm).append_left _, fun hlen => ?_⟩
      rw [hsplit, List.length_append, List.length_cons] at hlen
      have hpre : pre = [] := List.eq_nil_of_length_eq_zero (by omega)
      rw [hpre]
      rfl
  · have he' : ∀ q i v delivered, e ≠ .deliver q i v delivered :=
      fun q i v delivered h => he ⟨q, i, v, delivered, h⟩
    have hne := (h.registered pod x w hw).2.2
    have hdel : ((s.step e).pods pod).deliveries = _ := Fanout.deliveries_step he'
    have heq : account w pod (s.step e) = account w pod s ++ ofSession x (s.calls pod e) := by
      rw [account, account, Fanout.live_step hne he', hdel, pendingFor_append,
        pendingFor_calls (h.registered_iff hw), List.append_assoc]
    exact ⟨.of_eq heq, fun _ => heq⟩

end Account

end IspBilling.Stream
