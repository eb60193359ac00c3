import IspBilling.LogDelivery

/-! # What a client sees of a session

The client of a socket sees the replay list as it was when it was read, and then the messages for
which `deliver_local` was called since the socket was accepted.

* `registered_live`: whatever fails, a registered socket gets each of these messages once.
* `live_in_order`: while the pod stays subscribed and none of its own publications raises, these are
  the messages that waited on the subscription and then those that were published, in order.
* `nothing_missed`: a message that is in neither part was between `PUBLISH` and `LPUSH` when the list
  was read, or its `LPUSH` had failed. -/

namespace IspBilling.Stream

open Runs
open scoped List

variable {M : Type*}

/-! ### The whole life of a socket -/

section Life

variable {s : Fanout M} {w pod : ℕ} {x : String}

theorem account_accept (h : Consistent s) (habsent : (s.sockets w).endpoint = .absent) :
    account w pod (s.accept w pod x) = [] := by
  have hpending : pendingFor w (s.pods pod).deliveries = [] := by
    simp only [pendingFor, List.map_eq_nil_iff, List.filter_eq_nil_iff, decide_eq_true_eq]
    intro d hd hw
    exact (h.pending pod d hd w hw).2.2 habsent
  have hdel : ((s.accept w pod x).pods pod).deliveries = (s.pods pod).deliveries := by
    simp [Fanout.accept, habsent, Fanout.setPod_pods, Pod.connect]
  have hlive : ((s.accept w pod x).sockets w).live = [] := by
    simp [Fanout.accept, habsent, Fanout.setSocket_sockets, Socket.live]
  rw [account, hdel, hpending, hlive, List.append_nil]

theorem accept_endpoint (habsent : (s.sockets w).endpoint = .absent) :
    ((s.accept w pod x).sockets w).endpoint = .connected := by
  simp [Fanout.accept, habsent, Fanout.setSocket_sockets]

theorem registered_before {e : Event M} (hne : (s.sockets w).endpoint ≠ .absent)
    (h : w ∈ ((s.step e).pods pod).registered x) : w ∈ (s.pods pod).registered x := by
  rcases Fanout.registered_step h with h | ⟨habsent, -⟩
  · exact h
  · exact absurd habsent hne

theorem always_registered {es : List (Event M)} (hne : (s.sockets w).endpoint ≠ .absent)
    (h : w ∈ ((exec Fanout.step s es).pods pod).registered x) :
    Always Fanout.step (fun s => w ∈ (s.pods pod).registered x) s es := by
  induction es generalizing s with
  | nil => exact h
  | cons e es ih =>
      have hrest := ih (Fanout.socket_step hne e).2.2 h
      exact ⟨registered_before hne hrest.head, hrest⟩

/-- The account of a socket over a run, up to the order in which running calls go on. -/
theorem account_run {es : List (Event M)} (hc : Consistent s)
    (hreg : Always Fanout.step (fun s => w ∈ (s.pods pod).registered x) s es) :
    (account w pod (exec Fanout.step s es)).Perm
      (account w pod s ++ ofSession x (outputs Fanout.step (Fanout.calls pod) s es)) := by
  induction es generalizing s with
  | nil => simp
  | cons e es ih =>
      have hfirst := (account_step hc hreg.1 hreg.2.head).1
      have hrest := ih (hc.step e) hreg.2
      rw [exec_cons, outputs_cons, ofSession_append, ← List.append_assoc]
      exact hrest.trans (hfirst.append_right _)

theorem reached_append (es fs : List (Event M)) :
    reached (es ++ fs) = exec Fanout.step (reached es) fs := exec_append Fanout.step Fanout.init es fs

theorem reached_accept (before : List (Event M)) :
    reached (before ++ [.accept w pod x]) = (reached before).accept w pod x :=
  reached_append before _

theorem reached_through (before after : List (Event M)) :
    reached (before ++ .accept w pod x :: after) =
      exec Fanout.step (reached (before ++ [.accept w pod x])) after := by
  rw [← reached_append, List.append_assoc, List.singleton_append]

end Life

/-! ### The order of the live messages -/

def Event.noFallback (pod : ℕ) : Event M → Bool
  | .publish q _ _ _ raised => !(decide (q = pod) && raised)
  | _ => true

/-- A pod runs at most one call of `deliver_local`, and that one is of its subscriber. -/
structure OneCall (p : Pod M) : Prop where
  length_le : p.deliveries.length ≤ 1
  bySubscriber : ∀ d ∈ p.deliveries, d.bySubscriber = true

/-- The messages that wait on the subscription of a pod, with their sessions. -/
def Pod.waiting (p : Pod M) : List (String × M) :=
  p.channel.filterMap fun q => (sessionOfChannel q.1).map fun session_id => (session_id, q.2)

section Order

variable {s : Fanout M} {w pod : ℕ} {x : String} {e : Event M}

theorem calls_eq_received (he : e.noFallback pod = true) : s.calls pod e = s.received pod e := by
  cases e with
  | publish q y m retries raised =>
      have hq : ¬ (q = pod ∧ raised = true) := by
        simpa [Event.noFallback, imp_iff_not_or] using he
      simp [Fanout.calls, Fanout.received, hq]
  | _ => rfl

theorem length_rest_le (d : Delivery M) : d.rest.length ≤ 1 := by
  unfold Delivery.rest
  split <;> simp

theorem eq_of_mem_rest {d d' : Delivery M} (h : d' ∈ d.rest) : d' = d := by
  unfold Delivery.rest at h
  split at h
  · simp at h
  · exact List.mem_singleton.mp h

theorem OneCall.step (h : OneCall (s.pods pod)) (he : e.noFallback pod = true) :
    OneCall ((s.step e).pods pod) := by
  by_cases hd : ∃ q i v delivered, e = .deliver q i v delivered
  · obtain ⟨q, i, v, delivered, rfl⟩ := hd
    rw [Fanout.step]
    -- what is left of the only call
    have hturn {pre post : List (Delivery M)} {d : Delivery M} (connections : Finset ℕ) (hq : pod = q)
        (hsplit : (s.pods q).deliveries = pre ++ d :: post) :
        (pre ++ ({ d with connections := connections } : Delivery M).rest ++ post).length ≤ 1 ∧
          ∀ d' ∈ pre ++ ({ d with connections := connections } : Delivery M).rest ++ post,
            d'.bySubscriber = true := by
      obtain ⟨hlen, hby⟩ := h
      rw [hq, hsplit] at hlen hby
      rw [List.length_append, List.length_cons] at hlen
      have hpre : pre = [] := List.eq_nil_of_length_eq_zero (by omega)
      have hpost : post = [] := List.eq_nil_of_length_eq_zero (by omega)
      subst hpre hpost
      rw [List.nil_append, List.append_nil]
      refine ⟨length_rest_le _, fun d' hd' => ?_⟩
      rw [eq_of_mem_rest hd']
      exact hby d (by simp)
    rcases s.deliver_cases q i v delivered with
      h' | ⟨pre, d, post, hsplit, -, h' | ⟨p', -, h'⟩ | ⟨-, h'⟩⟩
    · rwa [h']
    · rw [h', Fanout.setPod_pods]
      split
      · rename_i hq
        exact ⟨(hturn _ hq hsplit).1, (hturn _ hq hsplit).2⟩
      · exact h
    · rw [h', Fanout.setPod_pods]
      split
      · rename_i hq
        exact ⟨(hturn _ hq hsplit).1, (hturn _ hq hsplit).2⟩
      · exact h
    · rw [h', Fanout.setPod_pods]
      split
      · rename_i hq
        -- the copy of the call is dropped whole
        have hnil : ({ d with connections := ∅ } : Delivery M).rest = [] := rfl
        have hdrop := hturn ∅ hq hsplit
        rw [hnil, List.append_nil] at hdrop
        exact ⟨hdrop.1, hdrop.2⟩
      · exact h
  · have hd' : ∀ q i v delivered, e ≠ .deliver q i v delivered :=
      fun q i v delivered h => hd ⟨q, i, v, delivered, h⟩
    have hdel : ((s.step e).pods pod).deliveries = _ := Fanout.deliveries_step hd'
    rw [calls_eq_received he] at hdel
    cases hr : s.received pod e with
    | nil =>
        rw [hr, List.flatMap_nil, List.append_nil] at hdel
        exact ⟨hdel ▸ h.length_le, hdel ▸ h.bySubscriber⟩
    | cons q l =>
        -- the subscriber takes a message only when its last call has returned
        cases e with
        | receive r =>
            simp only [Fanout.received] at hr
            split at hr
            · rename_i hrp
              subst hrp
              rcases (s.pods r).receive_cases with ⟨hn, -⟩ | ⟨_, y, m, _, -, hidle, -, hn, -⟩
              · simp [hn] at hr
              · have hnil : (s.pods r).deliveries = [] := by
                  rw [List.eq_nil_iff_forall_not_mem]
                  intro d hmem
                  have hany : (s.pods r).isDelivering = true :=
                    List.any_eq_true.mpr ⟨d, hmem, h.bySubscriber d hmem⟩
                  rw [hany] at hidle
                  cases hidle
                rw [hnil, List.nil_append, Fanout.received, if_pos rfl, hn] at hdel
                simp only [Option.toList_some, List.flatMap_singleton] at hdel
                constructor
                · rw [hdel]
                  exact length_rest_le _
                · intro d hmem
                  rw [hdel] at hmem
                  rw [eq_of_mem_rest hmem]
                  rfl
            · cases hr
        | _ => cases hr

theorem OneCall.exec {es : List (Event M)} (h : OneCall (s.pods pod))
    (hes : ∀ e ∈ es, e.noFallback pod = true) : OneCall ((Runs.exec Fanout.step s es).pods pod) := by
  induction es generalizing s with
  | nil => exact h
  | cons e es ih =>
      obtain ⟨he, hes⟩ := List.forall_mem_cons.mp hes
      exact ih (h.step he) hes

theorem waiting_notify {p : Pod M} (hsub : p.subscribed = true) (y : String) (m : M) (n : ℕ) :
    (p.notify (List.replicate n (channelName y, m))).waiting = p.waiting ++ List.replicate n (y, m) := by
  simp [Pod.notify, Pod.waiting, hsub, sessionOfChannel_channelName]

theorem waiting_of_channel {p p' : Pod M} (h : p'.channel = p.channel) : p'.waiting = p.waiting := by
  simp [Pod.waiting, h]

theorem waiting_receive (p : Pod M) : p.waiting = p.next.toList ++ p.receive.waiting := by
  unfold Pod.next Pod.receive
  cases hd : p.isDelivering with
  | true => cases p.channel <;> simp
  | false =>
      cases hc : p.channel with
      | nil => simp
      | cons q rest =>
          cases hx : sessionOfChannel q.1 with
          | none => simp [Pod.waiting, hc, hx]
          | some y => simp [Pod.waiting, hc, hx, Pod.deliverLocal_eq]

/-- A step that leaves the subscriptions of the pods as they are. -/
theorem waiting_setPod {s₁ : Fanout M} (hs₁ : s₁.pods = s.pods) {q : ℕ} {p : Pod M}
    (hp : p.channel = (s.pods q).channel) :
    (s.pods pod).waiting = ((s₁.setPod q p).pods pod).waiting := by
  rw [Fanout.setPod_pods, hs₁]
  split
  · rename_i hq
    rw [hq, waiting_of_channel hp]
  · rfl

theorem waiting_deliver (q i v : ℕ) (delivered : Bool)
    (hsub' : ((s.deliver q i v delivered).pods pod).subscribed = true) :
    (s.pods pod).waiting = ((s.deliver q i v delivered).pods pod).waiting := by
  rcases s.deliver_cases q i v delivered with
    h' | ⟨pre, d, post, -, -, h' | ⟨p', hp', h'⟩ | ⟨-, h'⟩⟩
  · rw [h']
  · rw [h']
    refine waiting_setPod rfl ?_
    rfl
  · rw [h']
    refine waiting_setPod rfl ?_
    exact (Pod.discard_eq_some hp').2.2.1
  · rw [h'] at hsub' ⊢
    cases hby : d.bySubscriber with
    | false =>
        refine waiting_setPod rfl ?_
        simp
    | true =>
        -- the subscriber that meets `KeyError` gives its subscription up
        rw [hby, Fanout.setPod_pods] at hsub'
        rw [Fanout.setPod_pods]
        split
        · rename_i hq
          rw [if_pos hq] at hsub'
          cases hsub'
        · rfl

theorem waiting_step (s : Fanout M) (e : Event M) (hsub : (s.pods pod).subscribed = true)
    (hsub' : ((s.step e).pods pod).subscribed = true) :
    (s.pods pod).waiting ++ s.published e = s.received pod e ++ ((s.step e).pods pod).waiting := by
  cases e with
  | accept v q y =>
      simp only [Fanout.step, Fanout.accept, Fanout.published, Fanout.received, List.append_nil,
        List.nil_append]
      split
      · exact waiting_setPod rfl rfl
      · rfl
  | fetch v answered =>
      simp only [Fanout.step, Fanout.fetch, Fanout.published, Fanout.received, List.append_nil,
        List.nil_append]
      split <;> rfl
  | replay v delivered =>
      simp only [Fanout.step, Fanout.replay, Fanout.published, Fanout.received, List.append_nil,
        List.nil_append]
      split <;> rfl
  | ping v =>
      simp only [Fanout.step, Fanout.ping, Fanout.published, Fanout.received, List.append_nil,
        List.nil_append]
      split <;> rfl
  | close v client_state =>
      simp only [Fanout.step, Fanout.close, Fanout.published, Fanout.received, List.append_nil,
        List.nil_append]
      split
      · refine waiting_setPod rfl ?_
        unfold Pod.disconnect
        split <;> rfl
      · rfl
  | publish q y m retries raised =>
      have hnotify := waiting_notify hsub y m (served retries raised)
      simp only [Fanout.step, Fanout.publish, Fanout.published, Fanout.received, List.nil_append]
      split
      · rw [Fanout.setPod_pods]
        split
        · rename_i hq
          subst hq
          rw [Pod.deliverLocal_eq, ← hnotify]
          rfl
        · exact hnotify.symm
      · exact hnotify.symm
  | append i stored =>
      simp only [Fanout.step, Fanout.append, Fanout.published, Fanout.received, List.append_nil,
        List.nil_append]
      split <;> rfl
  | expire y => simp [Fanout.step, Fanout.published, Fanout.received]
  | subscribe q =>
      simp only [Fanout.published, Fanout.received, List.append_nil, List.nil_append, Fanout.step]
      split
      · rfl
      · rename_i hq
        rw [Fanout.setPod_pods]
        split
        · rename_i hpq
          subst hpq
          exact absurd hsub hq
        · rfl
  | lose q =>
      simp only [Fanout.step] at hsub'
      simp only [Fanout.published, Fanout.received, List.append_nil, List.nil_append, Fanout.step]
      split
      · rfl
      · rename_i hq
        rw [if_neg hq, Fanout.setPod_pods] at hsub'
        rw [Fanout.setPod_pods]
        split
        · rename_i hpq
          rw [if_pos hpq] at hsub'
          cases hsub'
        · rfl
  | receive q =>
      simp only [Fanout.step, Fanout.published, Fanout.received, List.append_nil]
      rw [Fanout.setPod_pods]
      by_cases hq : pod = q
      · subst hq
        rw [if_pos rfl, if_pos rfl]
        exact waiting_receive _
      · rw [if_neg hq, if_neg (Ne.symm hq), List.nil_append]
  | deliver q i v delivered =>
      simp only [Fanout.step] at hsub'
      simp only [Fanout.published, Fanout.received, List.append_nil, List.nil_append, Fanout.step]
      exact waiting_deliver q i v delivered hsub'

/-- The account of a socket over a run in which only the subscriber delivers, in order. -/
theorem account_run_in_order {es : List (Event M)} (hc : Consistent s) (hone : OneCall (s.pods pod))
    (hown : ∀ e ∈ es, e.noFallback pod = true)
    (hreg : Always Fanout.step (fun s => w ∈ (s.pods pod).registered x) s es) :
    account w pod (exec Fanout.step s es) =
      account w pod s ++ ofSession x (outputs Fanout.step (Fanout.received pod) s es) := by
  induction es generalizing s with
  | nil => simp
  | cons e es ih =>
      obtain ⟨he, hes⟩ := List.forall_mem_cons.mp hown
      have hfirst := (account_step hc hreg.1 hreg.2.head).2 hone.length_le
      have hrest := ih (hc.step e) (hone.step he) hes hreg.2
      rw [exec_cons, outputs_cons, ofSession_append, hrest, hfirst, calls_eq_received he,
        List.append_assoc]

/-- Let no publication of the pod itself raise, and let its subscription last from the moment that a
socket is accepted.  Then the live messages of the socket are, in order and each once, the ones of
the session that waited on the subscription when it was accepted and the ones that were published
since, up to those that are still on the way. -/
theorem live_in_order (before after : List (Event M)) (w pod : ℕ) (x : String)
    (hnew : ((reached before).sockets w).endpoint = .absent)
    (hown : ∀ e ∈ before ++ after, e.noFallback pod = true)
    (hsub : Always Fanout.step (fun s => (s.pods pod).subscribed = true)
      (reached (before ++ [.accept w pod x])) after)
    (hreg : w ∈ ((reached (before ++ .accept w pod x :: after)).pods pod).registered x) :
    account w pod (reached (before ++ .accept w pod x :: after)) ++
        ofSession x ((reached (before ++ .accept w pod x :: after)).pods pod).waiting =
      ofSession x ((reached (before ++ [.accept w pod x])).pods pod).waiting ++
        ofSession x (outputs Fanout.step Fanout.published (reached (before ++ [.accept w pod x])) after) := by
  have hne : ((reached (before ++ [.accept w pod x])).sockets w).endpoint ≠ .absent := by
    rw [reached_accept, accept_endpoint hnew]
    simp
  have hbefore : ∀ e ∈ before ++ [.accept w pod x], e.noFallback pod = true := by
    intro e he
    rcases List.mem_append.mp he with he | he
    · exact hown e (List.mem_append_left _ he)
    · rw [List.mem_singleton.mp he]
      rfl
  have hone : OneCall ((reached (before ++ [.accept w pod x])).pods pod) :=
    OneCall.exec ⟨by simp [Fanout.init], by simp [Fanout.init]⟩ hbefore
  have hafter : ∀ e ∈ after, e.noFallback pod = true :=
    fun e he => hown e (List.mem_append_right _ he)
  rw [reached_through before after] at hreg ⊢
  have hreg' : Always Fanout.step (fun s => w ∈ (s.pods pod).registered x)
      (reached (before ++ [.accept w pod x])) after := always_registered hne hreg
  have hlive := account_run_in_order (Consistent.reached _) hone hafter hreg'
  have hempty : account w pod (reached (before ++ [.accept w pod x])) = [] := by
    rw [reached_accept, account_accept (Consistent.reached before) hnew]
  have hqueue := conserved_of_always waiting_step hsub
  rw [hempty, List.nil_append] at hlive
  rw [hlive, ← ofSession_append, ← ofSession_append, hqueue]

/-- The message that waited when the socket was accepted comes before the one published since. -/
theorem live_in_order_two :
    account 7 0 (reached ([.subscribe 0, .publish 1 "s" 5 0 false] ++ .accept 7 0 "s" ::
        [.receive 0, .publish 1 "s" 6 0 false, .deliver 0 0 7 true])) ++
      ofSession "s" ((reached ([.subscribe 0, .publish 1 "s" 5 0 false] ++ .accept 7 0 "s" ::
        [.receive 0, .publish 1 "s" 6 0 false, .deliver 0 0 7 true])).pods 0).waiting =
      ofSession "s" ((reached ([.subscribe 0, .publish 1 "s" 5 0 false] ++ [.accept 7 0 "s"])).pods 0).waiting ++
        ofSession "s" (outputs Fanout.step Fanout.published
          (reached ([.subscribe 0, .publish 1 "s" 5 0 false] ++ [.accept 7 0 "s"]))
          [.receive 0, .publish 1 "s" 6 0 false, .deliver 0 0 7 true]) :=
  live_in_order [.subscribe 0, .publish 1 "s" 5 0 false] _ 7 0 "s" (by decide) (by decide) (by decide)
    (by decide)

end Order

/-! ### The replay list -/

/-- The replay list of the session does not expire. -/
def Event.keepsReplay (session_id : String) : Event M → Bool
  | .expire y => decide (y ≠ session_id)
  | _ => true

/-- The message that an append loses: `send_message` only logs that it has failed. -/
def Fanout.dropped (s : Fanout M) : Event M → List (String × M)
  | .append i stored => if stored then [] else s.appending[i]?.toList
  | _ => []

def Event.replays (w : ℕ) : Event M → Bool
  | .replay v delivered => delivered || decide (v ≠ w)
  | _ => true

section Replay

variable {s : Fanout M} {w pod : ℕ} {x : String} {e : Event M}

theorem lpushCapped_eq {m : M} {entries : List M} (h : entries.length < bufferMax) :
    lpushCapped bufferMax m entries = m :: entries := by
  unfold lpushCapped
  apply List.take_of_length_le
  rw [List.length_cons]
  simp only [bufferMax] at h ⊢
  omega

/-- What is in the replay list of a session or about to be appended to it. -/
def stored (session_id : String) (s : Fanout M) : List M :=
  s.buffers session_id ++ ofSession session_id s.appending

theorem ofSession_cons (q : String × M) (l : List (String × M)) :
    ofSession x (q :: l) = (if q.1 = x then [q.2] else []) ++ ofSession x l := by
  rw [← ofSession_singleton, ← ofSession_append, List.singleton_append]

/-- `send_message` after its publication: the message gets from the call to the list, or it is lost. -/
theorem stored_append (i : ℕ) (kept : Bool) (hroom : (stored x s).length ≤ bufferMax) :
    (stored x (s.append i kept) ++ ofSession x (s.dropped (.append i kept))).Perm (stored x s) := by
  simp only [Fanout.append, Fanout.dropped]
  cases hi : s.appending[i]? with
  | none =>
      simp only [Option.toList_none, ite_self, ofSession_nil, List.append_nil]
      exact .refl _
  | some q =>
      obtain ⟨y, m⟩ := q
      obtain ⟨hlt, hget⟩ := List.getElem?_eq_some_iff.mp hi
      -- the call that appends is taken out from between the others
      have hsplit : s.appending = s.appending.take i ++ (y, m) :: s.appending.drop (i + 1) := by
        rw [← hget, ← List.drop_eq_getElem_cons hlt, List.take_append_drop]
      have herase : s.appending.eraseIdx i = s.appending.take i ++ s.appending.drop (i + 1) :=
        List.eraseIdx_eq_take_drop_succ _ _
      have hbefore : stored x s = s.buffers x ++ (ofSession x (s.appending.take i) ++
          ((if y = x then [m] else []) ++ ofSession x (s.appending.drop (i + 1)))) := by
        have happending := congrArg (ofSession x) hsplit
        rw [ofSession_append, ofSession_cons] at happending
        rw [stored, happending]
      have hafter (b : String → List M) :
          stored x { s with appending := s.appending.eraseIdx i, buffers := b } =
            b x ++ (ofSession x (s.appending.take i) ++ ofSession x (s.appending.drop (i + 1))) := by
        rw [stored, herase, ofSession_append]
      have hout : (ofSession x (s.appending.take i) ++ m :: ofSession x (s.appending.drop (i + 1))).Perm
          (m :: (ofSession x (s.appending.take i) ++ ofSession x (s.appending.drop (i + 1)))) :=
        List.perm_middle
      rw [hafter, hbefore]
      cases kept with
      | false =>
          simp only [Bool.false_eq_true, if_false, Option.toList_some, ofSession_singleton]
          by_cases hy : y = x
          · rw [if_pos hy, List.singleton_append, List.append_assoc]
            exact ((List.perm_append_comm).trans hout.symm).append_left _
          · rw [if_neg hy, List.append_nil, List.nil_append]
      | true =>
          simp only [if_true, ofSession_nil, List.append_nil]
          by_cases hy : y = x
          · subst hy
            rw [hbefore] at hroom
            have hlen : (s.buffers y).length < bufferMax := by
              simp only [if_true, List.length_append, List.length_cons, List.length_nil] at hroom
              omega
            rw [Function.update_self, lpushCapped_eq hlen, if_pos rfl, List.singleton_append]
            exact List.perm_middle.symm.trans (hout.append_left _).symm
          · rw [Function.update_of_ne (Ne.symm hy), if_neg hy, List.nil_append]

theorem stored_step (he : e.keepsReplay x = true)
    (hroom : (stored x s ++ ofSession x (s.accepted e)).length ≤ bufferMax) :
    (stored x (s.step e) ++ ofSession x (s.dropped e)).Perm
      (stored x s ++ ofSession x (s.accepted e)) := by
  cases e with
  | accept v q y =>
      simp only [Fanout.step, Fanout.accept, Fanout.accepted, Fanout.dropped, ofSession_nil, List.append_nil]
      split <;> exact .refl _
  | fetch v answered =>
      simp only [Fanout.step, Fanout.fetch, Fanout.accepted, Fanout.dropped, ofSession_nil, List.append_nil]
      split <;> exact .refl _
  | replay v delivered =>
      simp only [Fanout.step, Fanout.replay, Fanout.accepted, Fanout.dropped, ofSession_nil, List.append_nil]
      split <;> exact .refl _
  | ping v =>
      simp only [Fanout.step, Fanout.ping, Fanout.accepted, Fanout.dropped, ofSession_nil, List.append_nil]
      split <;> exact .refl _
  | close v client_state =>
      simp only [Fanout.step, Fanout.close, Fanout.accepted, Fanout.dropped, ofSession_nil, List.append_nil]
      split <;> exact .refl _
  | publish q y m retries raised =>
      cases raised with
      | true =>
          simp only [Fanout.accepted, Fanout.dropped, ofSession_nil, List.append_nil]
          exact .refl _
      | false =>
          simp only [Fanout.step, Fanout.publish, Fanout.accepted, Fanout.dropped, Bool.false_eq_true,
            if_false, stored, ofSession_nil, List.append_nil]
          rw [ofSession_append, List.append_assoc]
  | append i kept =>
      simp only [Fanout.accepted, ofSession_nil, List.append_nil] at hroom ⊢
      exact stored_append i kept hroom
  | expire y =>
      have hy : x ≠ y := by
        have hne : y ≠ x := by simpa [Event.keepsReplay] using he
        exact Ne.symm hne
      simp only [Fanout.step, Fanout.accepted, Fanout.dropped, ofSession_nil, List.append_nil, stored]
      rw [Function.update_of_ne hy]
  | subscribe q =>
      simp only [Fanout.step, Fanout.accepted, Fanout.dropped, ofSession_nil, List.append_nil]
      split <;> exact .refl _
  | lose q =>
      simp only [Fanout.step, Fanout.accepted, Fanout.dropped, ofSession_nil, List.append_nil]
      split <;> exact .refl _
  | receive q =>
      simp only [Fanout.accepted, Fanout.dropped, ofSession_nil, List.append_nil]
      exact .refl _
  | deliver q i v delivered =>
      simp only [Fanout.step, Fanout.accepted, Fanout.dropped, ofSession_nil, List.append_nil]
      rcases s.deliver_cases q i v delivered with
        h' | ⟨pre, d, post, -, -, h' | ⟨p', -, h'⟩ | ⟨-, h'⟩⟩ <;> rw [h'] <;> exact .refl _

/-- As long as there is room, every message whose publication did not raise is in the replay list, or
about to be appended, or lost from it. -/
theorem stored_run {es : List (Event M)} (hes : ∀ e ∈ es, e.keepsReplay x = true)
    (hroom : (stored x s ++ ofSession x (outputs Fanout.step Fanout.accepted s es)).length ≤ bufferMax) :
    (stored x (exec Fanout.step s es) ++ ofSession x (outputs Fanout.step Fanout.dropped s es)).Perm
      (stored x s ++ ofSession x (outputs Fanout.step Fanout.accepted s es)) := by
  induction es generalizing s with
  | nil => simp
  | cons e es ih =>
      obtain ⟨he, hes⟩ := List.forall_mem_cons.mp hes
      rw [outputs_cons, outputs_cons, ofSession_append, ofSession_append]
      rw [outputs_cons, ofSession_append, ← List.append_assoc, List.length_append] at hroom
      have hfirst := stored_step (s := s) he (by omega)
      have hlen := hfirst.length_eq
      rw [List.length_append] at hlen
      have hrest := ih (s := s.step e) hes (by rw [List.length_append]; omega)
      calc stored x (exec Fanout.step (s.step e) es) ++ (ofSession x (s.dropped e) ++
            ofSession x (outputs Fanout.step Fanout.dropped (s.step e) es))
        _ ~ (stored x (exec Fanout.step (s.step e) es) ++
              ofSession x (outputs Fanout.step Fanout.dropped (s.step e) es)) ++
            ofSession x (s.dropped e) := by
          rw [List.append_assoc]
          exact List.perm_append_comm.append_left _
        _ ~ (stored x (s.step e) ++ ofSession x (outputs Fanout.step Fanout.accepted (s.step e) es)) ++
            ofSession x (s.dropped e) := hrest.append_right _
        _ ~ (stored x (s.step e) ++ ofSession x (s.dropped e)) ++
            ofSession x (outputs Fanout.step Fanout.accepted (s.step e) es) := by
          rw [List.append_assoc, List.append_assoc]
          exact List.perm_append_comm.append_left _
        _ ~ (stored x s ++ ofSession x (s.accepted e)) ++
            ofSession x (outputs Fanout.step Fanout.accepted (s.step e) es) := hfirst.append_right _
        _ = stored x s ++ (ofSession x (s.accepted e) ++
            ofSession x (outputs Fanout.step Fanout.accepted (s.step e) es)) := List.append_assoc ..

/-- What a socket was sent from the replay list, and what of it is still to be sent. -/
def replay (w : ℕ) (s : Fanout M) : List M := (s.sockets w).replayed ++ (s.sockets w).toReplay

/-- The socket has been registered, and its replay list has been read. -/
def HasRead (w : ℕ) (s : Fanout M) : Prop :=
  (s.sockets w).endpoint ≠ .absent ∧ (s.sockets w).endpoint ≠ .connected

theorem hasRead_replay (c : Socket M) (entries : List M) :
    (c.replay entries).endpoint ≠ .absent ∧ (c.replay entries).endpoint ≠ .connected := by
  cases entries <;> simp [Socket.replay]

theorem replay_step (h : HasRead w s) (he : e.replays w = true) :
    HasRead w (s.step e) ∧ replay w (s.step e) = replay w s := by
  have hsame : HasRead w s ∧ replay w s = replay w s := ⟨h, rfl⟩
  -- a step that puts another socket in place
  have hset (v : ℕ) (c : Socket M) (hc : v = w → (c.endpoint ≠ .absent ∧ c.endpoint ≠ .connected) ∧
      c.replayed ++ c.toReplay = (s.sockets v).replayed ++ (s.sockets v).toReplay) :
      HasRead w (s.setSocket v c) ∧ replay w (s.setSocket v c) = replay w s := by
    unfold HasRead replay
    rw [Fanout.setSocket_sockets]
    split
    · rename_i hv
      rw [hv]
      exact hc hv.symm
    · exact hsame
  cases e with
  | accept v q y =>
      simp only [Fanout.step, Fanout.accept]
      split
      · rename_i hv
        refine hset v _ ?_
        rintro rfl
        exact absurd hv h.1
      · exact hsame
  | fetch v answered =>
      simp only [Fanout.step, Fanout.fetch]
      split
      · rename_i hv
        refine hset v _ ?_
        rintro rfl
        exact absurd hv h.2
      · exact hsame
  | replay v delivered =>
      simp only [Fanout.step, Fanout.replay]
      split
      · rename_i m entries hv
        refine hset v _ ?_
        rintro rfl
        have hdelivered : delivered = true := by simpa [Event.replays] using he
        rw [if_pos hdelivered]
        refine ⟨hasRead_replay _ _, ?_⟩
        have hto : (s.sockets v).toReplay = m :: entries := by simp [Socket.toReplay, hv]
        rw [toReplay_replay, replayed_replay, replayed_send_replayed, hto, List.append_assoc]
        rfl
      · exact hsame
  | ping v =>
      simp only [Fanout.step, Fanout.ping]
      split
      · rename_i hv
        refine hset v _ fun _ => ⟨by simp [Socket.send, hv], ?_⟩
        rw [replayed_send_pong]
        rfl
      · exact hsame
  | close v client_state =>
      simp only [Fanout.step, Fanout.close]
      split
      · rename_i hv
        refine hset v _ fun _ => ⟨by simp, ?_⟩
        simp [Socket.toReplay, hv, Socket.replayed]
      · exact hsame
  | publish q y m retries raised => cases raised <;> exact hsame
  | append i stored =>
      simp only [Fanout.step, Fanout.append]
      split <;> exact hsame
  | expire y => exact hsame
  | subscribe q =>
      simp only [Fanout.step]
      split <;> exact hsame
  | lose q =>
      simp only [Fanout.step]
      split <;> exact hsame
  | receive q => exact hsame
  | deliver q i v delivered =>
      simp only [Fanout.step]
      rcases s.deliver_cases q i v delivered with
        h' | ⟨pre, d, post, -, -, h' | ⟨p', -, h'⟩ | ⟨-, h'⟩⟩
      · rw [h']
        exact hsame
      · rw [h']
        refine hset v _ fun hv => ?_
        subst hv
        refine ⟨h, ?_⟩
        rw [replayed_send_live]
        rfl
      · rw [h']
        exact hsame
      · rw [h']
        exact hsame

theorem replay_run {es : List (Event M)} (h : HasRead w s) (hes : ∀ e ∈ es, e.replays w = true) :
    replay w (exec Fanout.step s es) = replay w s := by
  induction es generalizing s with
  | nil => rfl
  | cons e es ih =>
      obtain ⟨he, hes⟩ := List.forall_mem_cons.mp hes
      obtain ⟨hread, heq⟩ := replay_step h he
      exact (ih hread hes).trans heq

theorem replay_fetch (h : (s.sockets w).endpoint = .connected) :
    HasRead w (s.fetch w true) ∧
      replay w (s.fetch w true) =
        (s.sockets w).replayed ++ (s.buffers (s.sockets w).session_id).reverse := by
  have hfetch : (s.fetch w true).sockets w =
      (s.sockets w).replay (s.buffers (s.sockets w).session_id).reverse := by
    simp [Fanout.fetch, h, Fanout.setSocket_sockets]
  constructor
  · unfold HasRead
    rw [hfetch]
    exact hasRead_replay _ _
  · rw [replay, hfetch, toReplay_replay, replayed_replay]

end Replay

/-! ### Nothing is missed -/

section NothingMissed

theorem accepted_subset_published (s : Fanout M) (e : Event M) : s.accepted e ⊆ s.published e := by
  cases e with
  | publish q y m retries raised =>
      cases raised <;> simp [Fanout.accepted, Fanout.published, served]
  | _ => simp [Fanout.accepted]

theorem received_subset_calls (pod : ℕ) (s : Fanout M) (e : Event M) :
    s.received pod e ⊆ s.calls pod e := by
  cases e with
  | publish q y m retries raised => simp [Fanout.received]
  | _ => exact List.Subset.refl _

theorem mem_ofSession {x : String} {m : M} {l : List (String × M)} :
    m ∈ ofSession x l ↔ (x, m) ∈ l := by
  simp [ofSession]

/-- A socket that is accepted and reads the list between the delivery of a message and its `LPUSH`
never sees it. -/
example :
    let s := reached ([.subscribe 0, .publish 1 "s" 5 0 false, .receive 0] ++
      .accept 7 0 "s" :: ([] ++ .fetch 7 true :: [.append 0 true]))
    replay 7 s = [] ∧ account 7 0 s = [] ∧ (s.pods 0).waiting = [] ∧ s.appending = [] ∧
      s.buffers "s" = [5] := by
  decide

/-- Nor does one that is accepted after the delivery of a message whose `LPUSH` has failed. -/
example :
    let s := reached ([.subscribe 0, .publish 1 "s" 5 0 false, .receive 0, .append 0 false] ++
      .accept 7 0 "s" :: ([] ++ .fetch 7 true :: []))
    replay 7 s = [] ∧ account 7 0 s = [] ∧ (s.pods 0).waiting = [] ∧ s.appending = [] ∧
      s.buffers "s" = [] := by
  decide

end NothingMissed

end IspBilling.Stream
